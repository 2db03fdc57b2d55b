import Mathlib.Data.List.Forall2
import TerseQuery.Failure

/-!
# Steps that can fail

* `bind_eq_ok`, `mapM_eq_ok`, `exists_mapM_filterMap`: what it takes for steps in a row to succeed;
* `coded_bind_congr`: steps that agree up to the text of a failure agree when they are put in a row.
-/

namespace TerseQuery

section
variable {ε α β : Type}

theorem bind_eq_ok {x : Except ε α} {f : α → Except ε β} {b : β} :
    x >>= f = .ok b ↔ ∃ a, x = .ok a ∧ f a = .ok b := by
  cases x <;> simp [bind, Except.bind]

theorem mapM_eq_ok {f : α → Except ε β} {xs : List α} {ys : List β} :
    xs.mapM f = .ok ys ↔ List.Forall₂ (fun x y => f x = .ok y) xs ys := by
  induction xs generalizing ys with
  | nil =>
    simp only [List.mapM_nil, List.forall₂_nil_left_iff]
    exact ⟨fun h => (Except.ok.inj h).symm, fun h => h ▸ rfl⟩
  | cons x xs ih =>
    simp only [List.mapM_cons, bind_eq_ok, ih, List.forall₂_cons_left_iff]
    constructor
    · rintro ⟨y, hy, rest, hrest, heq⟩
      exact ⟨y, rest, hy, hrest, (Except.ok.inj heq).symm⟩
    · rintro ⟨y, rest, hy, hrest, rfl⟩
      exact ⟨y, hy, rest, hrest, rfl⟩

/-- A step succeeds with what is told of it, or there is neither. -/
def TellsAlike {γ : Type} (made : Option (Except ε β)) (tell : β → γ) (told : Option γ) : Prop :=
  (made = none ∧ told = none) ∨ ∃ y, made = some (.ok y) ∧ told = some (tell y)

theorem exists_mapM_filterMap {γ : Type} {f : α → Option (Except ε β)} {g : α → Option γ} {h : β → γ}
    {xs : List α} (hfg : ∀ x ∈ xs, TellsAlike (f x) h (g x)) :
    ∃ ys, (xs.filterMap f).mapM id = .ok ys ∧ ys.map h = xs.filterMap g := by
  induction xs with
  | nil => exact ⟨[], rfl, rfl⟩
  | cons x xs ih =>
    obtain ⟨ys, hys, hmap⟩ := ih fun x' hx' => hfg x' (List.mem_cons_of_mem _ hx')
    rcases hfg x List.mem_cons_self with ⟨hf, hg⟩ | ⟨y, hf, hg⟩
    · rw [List.filterMap_cons_none hf, List.filterMap_cons_none hg]
      exact ⟨ys, hys, hmap⟩
    · rw [List.filterMap_cons_some hf, List.filterMap_cons_some hg]
      refine ⟨y :: ys, ?_, by rw [List.map_cons, hmap]⟩
      rw [List.mapM_cons, hys]
      rfl

end

namespace Failure

variable {α β : Type}

/-- A result with no more of a failure than its code. -/
def coded (x : Except Failure α) : Except String α :=
  x.mapError code

theorem coded_bind_congr {x y : Except Failure α} {f g : α → Except Failure β}
    (hxy : coded x = coded y) (hfg : ∀ a, coded (f a) = coded (g a)) :
    coded (x >>= f) = coded (y >>= g) := by
  cases x with
  | error e =>
    cases y with
    | error e' => simpa [coded, Except.mapError, bind, Except.bind] using hxy
    | ok b => simp [coded, Except.mapError] at hxy
  | ok a =>
    cases y with
    | error e' => simp [coded, Except.mapError] at hxy
    | ok b =>
      have hab : a = b := by simpa [coded, Except.mapError] using hxy
      subst hab
      exact hfg a

end Failure

end TerseQuery
