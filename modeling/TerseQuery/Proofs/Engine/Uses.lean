import TerseQuery.Engine.Basic

/-!
# Uses of engines

* `Engine.SameBySettings`: engines whose answers depend on nothing but what they are asked and the settings that
  they were handed;
* `Engine.sameBySettings_of_execute`: an engine that no statement changes is one.
-/

namespace TerseQuery

namespace Engine

/-- What an engine is used for. -/
inductive Use where
  | configure (settings : Settings)
  | execute (sql : String)

/-- The settings that an engine is handed in some uses of it. -/
def handed : List Use → List Settings
  | [] => []
  | .configure settings :: rest => settings :: handed rest
  | .execute _ :: rest => handed rest

variable {ε : Type} [Engine ε]

/-- An engine after some uses of it, the first one first. -/
def afterUses : List Use → ε → ε
  | [], e => e
  | .configure settings :: rest, e => afterUses rest (Engine.configure settings e).2
  | .execute sql :: rest, e => afterUses rest (Engine.execute sql e).2

/-- Engines that give the same answers after uses that handed them the same settings. What else they were used
for before does not show. -/
structure SameBySettings (e other : ε) : Prop where
  configure : ∀ uses uses', handed uses = handed uses' → ∀ settings,
    (Engine.configure settings (afterUses uses' other)).1 = (Engine.configure settings (afterUses uses e)).1
  execute : ∀ uses uses', handed uses = handed uses' → ∀ sql,
    (Engine.execute sql (afterUses uses' other)).1 = (Engine.execute sql (afterUses uses e)).1

namespace SameBySettings

variable {e other : ε}

theorem handing (h : SameBySettings e other) (settings : Settings) :
    SameBySettings (Engine.configure settings e).2 (Engine.configure settings other).2 where
  configure uses uses' huses :=
    h.configure (.configure settings :: uses) (.configure settings :: uses') (congrArg (settings :: ·) huses)
  execute uses uses' huses :=
    h.execute (.configure settings :: uses) (.configure settings :: uses') (congrArg (settings :: ·) huses)

theorem running (h : SameBySettings e other) (sql : String) :
    SameBySettings (Engine.execute sql e).2 (Engine.execute sql other).2 where
  configure uses uses' huses := h.configure (.execute sql :: uses) (.execute sql :: uses') huses
  execute uses uses' huses := h.execute (.execute sql :: uses) (.execute sql :: uses') huses

/-- A statement that only one of them runs does not show. -/
theorem running_right (h : SameBySettings e other) (sql : String) :
    SameBySettings e (Engine.execute sql other).2 where
  configure uses uses' huses := h.configure uses (.execute sql :: uses') huses
  execute uses uses' huses := h.execute uses (.execute sql :: uses') huses

end SameBySettings

theorem afterUses_eq (h : ∀ sql (e : ε), (Engine.execute sql e).2 = e) (uses : List Use) (e : ε) :
    afterUses uses e = (handed uses).foldl (fun e settings => (Engine.configure settings e).2) e := by
  induction uses generalizing e with
  | nil => rfl
  | cons use rest ih =>
    cases use with
    | configure settings => exact ih _
    | execute sql =>
      rw [afterUses, h]
      exact ih e

/-- An engine that no statement changes is what the settings that it was handed made of it. -/
theorem sameBySettings_of_execute (h : ∀ sql (e : ε), (Engine.execute sql e).2 = e) (e : ε) :
    SameBySettings e e where
  configure uses uses' huses settings := by rw [afterUses_eq h, afterUses_eq h, huses]
  execute uses uses' huses sql := by rw [afterUses_eq h, afterUses_eq h, huses]

end Engine

end TerseQuery
