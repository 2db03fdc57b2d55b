import Mathlib.Algebra.GroupWithZero.Nat
import Mathlib.Data.List.Basic
import Mathlib.Tactic.Common

/-!
# Accesses that may fail

A text can be cut at a byte only between two characters, and a number can be taken only from one that is as
large. Computations are read here with each such access as a step of its own, and stop where one fails.

* `splitAt?_eq_some_iff`: a text is cut where a character starts or at its end, and nowhere else;
* `sliceFrom?_append`, `slice?_append`: the parts of a text by the bytes before them and up to their ends;
* `minus?_of_le`: a number less one that is no larger;
* `access_some`: a computation goes on after an access that succeeds.
-/

namespace TerseQuery.Checked

/-! ## Bytes of a text -/

/-- The bytes that characters take. -/
def byteLength (cs : List Char) : Nat :=
  (cs.map Char.utf8Size).sum

/-- Characters with the bytes at which they start, the first of them at `start`. -/
def places (start : Nat) : List Char → List (Nat × Char)
  | [] => []
  | c :: rest => (start, c) :: places (start + c.utf8Size) rest

/-- A text cut at a byte. There is no cut inside a character or beyond the end. -/
def splitAt? (n : Nat) : List Char → Option (List Char × List Char)
  | [] => if n = 0 then some ([], []) else none
  | c :: rest =>
    if n = 0 then some ([], c :: rest)
    else if c.utf8Size ≤ n then
      (splitAt? (n - c.utf8Size) rest).map fun parts => (c :: parts.1, parts.2)
    else none

/-- A text from a byte on. -/
def sliceFrom? (start : Nat) (cs : List Char) : Option (List Char) :=
  (splitAt? start cs).map Prod.snd

/-- A text from a byte up to another one. -/
def slice? (start stop : Nat) (cs : List Char) : Option (List Char) := do
  let (before, _) ← splitAt? stop cs
  sliceFrom? start before

@[simp] theorem byteLength_nil : byteLength [] = 0 := rfl

@[simp] theorem byteLength_cons (c : Char) (cs : List Char) :
    byteLength (c :: cs) = c.utf8Size + byteLength cs := by
  simp [byteLength]

@[simp] theorem byteLength_append (xs ys : List Char) :
    byteLength (xs ++ ys) = byteLength xs + byteLength ys := by
  simp [byteLength]

theorem byteLength_toList (s : String) : byteLength s.toList = s.utf8ByteSize := by
  induction s using String.push_induction with
  | empty => rfl
  | push s c ih => simp [ih]

theorem places_append (start : Nat) (xs ys : List Char) :
    places start (xs ++ ys) = places start xs ++ places (start + byteLength xs) ys := by
  induction xs generalizing start with
  | nil => rfl
  | cons c rest ih => simp [places, ih, Nat.add_assoc]

/-- A text is cut where a character starts, or at its end. -/
theorem splitAt?_eq_some_iff {n : Nat} {cs before after : List Char} :
    splitAt? n cs = some (before, after) ↔ cs = before ++ after ∧ byteLength before = n := by
  induction cs generalizing n before with
  | nil =>
    rw [splitAt?, List.nil_eq_append_iff]
    constructor
    · intro h
      split at h
      · rename_i hzero
        cases h
        exact ⟨⟨rfl, rfl⟩, hzero.symm⟩
      · cases h
    · rintro ⟨⟨rfl, rfl⟩, rfl⟩
      rfl
  | cons c rest ih =>
    have hpos := c.utf8Size_pos
    rw [splitAt?]
    constructor
    · intro h
      split at h
      · rename_i hzero
        cases h
        exact ⟨rfl, hzero.symm⟩
      · split at h
        · rename_i hle
          obtain ⟨⟨inner, later⟩, hcut, hparts⟩ := Option.map_eq_some_iff.mp h
          simp only [Prod.mk.injEq] at hparts
          obtain ⟨rfl, rfl⟩ := hparts
          obtain ⟨rfl, hlength⟩ := ih.mp hcut
          refine ⟨rfl, ?_⟩
          rw [byteLength_cons]
          omega
        · cases h
    · rintro ⟨hsplit, rfl⟩
      cases before with
      | nil => rw [byteLength_nil, if_pos rfl, hsplit, List.nil_append]
      | cons d inner =>
        rw [List.cons_append, List.cons.injEq] at hsplit
        obtain ⟨rfl, rfl⟩ := hsplit
        have hcut := (ih (n := byteLength inner)).mpr ⟨rfl, rfl⟩
        rw [byteLength_cons, if_neg (by omega), if_pos (Nat.le_add_right _ _), Nat.add_sub_cancel_left, hcut]
        rfl

theorem splitAt?_append (before after : List Char) :
    splitAt? (byteLength before) (before ++ after) = some (before, after) :=
  splitAt?_eq_some_iff.mpr ⟨rfl, rfl⟩

theorem sliceFrom?_append (before after : List Char) :
    sliceFrom? (byteLength before) (before ++ after) = some after := by
  rw [sliceFrom?, splitAt?_append]
  rfl

theorem slice?_append (before part after : List Char) :
    slice? (byteLength before) (byteLength before + byteLength part) (before ++ part ++ after) = some part := by
  rw [slice?, ← byteLength_append, splitAt?_append]
  exact sliceFrom?_append before part

theorem slice?_zero_append (before after : List Char) :
    slice? 0 (byteLength before) (before ++ after) = some before := by
  simpa using slice?_append [] before after

/-- There is no cut inside a character. -/
example : slice? 0 1 ['é', '='] = none := by decide

/-! ## Numbers -/

/-- A number less another one, if that is no larger. -/
def minus? (a b : Nat) : Option Nat :=
  if b ≤ a then some (a - b) else none

theorem minus?_of_le {a b : Nat} (h : b ≤ a) : minus? a b = some (a - b) :=
  if_pos h

/-! ## Computations with accesses -/

section
variable {m : Type → Type} [Monad m] {α β : Type}

/-- An access as a step of a computation that stops where an access fails. -/
def access (found : Option α) : OptionT m α :=
  OptionT.mk (pure found)

@[simp] theorem access_some (a : α) : (access (some a) : OptionT m α) = pure a := rfl

/-- A computation without accesses on each member of a list. -/
theorem mapM_liftM [LawfulMonad m] (f : α → m β) (l : List α) :
    (l.mapM fun a => (liftM (f a) : OptionT m β)) = liftM (l.mapM f) := by
  induction l with
  | nil => simp
  | cons a rest ih =>
    rw [List.mapM_cons, List.mapM_cons, ih]
    simp only [liftM_bind, liftM_pure]

/-- Computations without accesses that some members of a list stand for, one after the other. -/
theorem mapM_filterMap_liftM [LawfulMonad m] (f : α → Option (m β)) (l : List α) :
    (l.filterMap fun a => (f a).map (liftM : m β → OptionT m β)).mapM id =
      liftM ((l.filterMap f).mapM id) := by
  rw [← List.map_filterMap, List.mapM_map]
  exact mapM_liftM id (l.filterMap f)

end

end TerseQuery.Checked
