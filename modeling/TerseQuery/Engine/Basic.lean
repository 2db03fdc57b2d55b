import TerseQuery.Result.Basic
import TerseQuery.Settings.Basic

/-!
# Engines

An engine runs statements. It may change with each use, also with one that fails.
-/
namespace TerseQuery

class Engine (ε : Type) where
  /-- Takes up settings: whether the engine accepts them, and the engine afterwards. -/
  configure : Settings → ε → Except Failure Unit × ε
  /-- Runs a statement: the answer, and the engine afterwards. -/
  execute : String → ε → Except Failure ResultSet × ε

/-- An engine that remembers its uses, the first one first. -/
structure Recorded (ε : Type) where
  engine : ε
  /-- The statements that were to be run. -/
  statements : List String
  /-- The settings that were to be taken up, and the engine after each. -/
  configurations : List (Settings × ε)

namespace Recorded

variable {ε : Type}

/-- An engine without a past. -/
def fresh (engine : ε) : Recorded ε := ⟨engine, [], []⟩

instance [Engine ε] : Engine (Recorded ε) where
  configure settings r :=
    let (accepted, engine) := Engine.configure settings r.engine
    (accepted, { r with engine, configurations := r.configurations ++ [(settings, engine)] })
  execute sql r :=
    let (answer, engine) := Engine.execute sql r.engine
    (answer, { r with engine, statements := r.statements ++ [sql] })

end Recorded

/-- An engine that accepts all settings and gives one answer to all statements. -/
structure Scripted where
  answer : Except Failure ResultSet

instance : Engine Scripted where
  configure _ e := (.ok (), e)
  execute _ e := (e.answer, e)

end TerseQuery
