import Mathlib.Data.List.Basic
import TerseQuery.Sql.Statement

/-!
# Splitting SQL outside quotes and parentheses

A text of SQL is read character by character. A quote opens or closes a quoted text, and parentheses count
outside of quoted texts only. A text can be split at a mark wherever it stands outside both.

* `Passes`: a part of a text in which no mark begins;
* `splitOutside_intercalate`: parts that pass, joined by the mark, are what splitting gives back.
-/

namespace TerseQuery.Sql

/-- Where a place in SQL is: in a quoted text or not, and in how many parentheses. -/
structure Nesting where
  quoted : Bool
  depth : Nat
  deriving DecidableEq, Repr

namespace Nesting

/-- The place where SQL begins. -/
def outermost : Nesting := ⟨false, 0⟩

def isOutermost (n : Nesting) : Bool :=
  !n.quoted && n.depth == 0

/-- The place after one more character. -/
def next (n : Nesting) (c : Char) : Nesting :=
  if c = '\'' then { n with quoted := !n.quoted }
  else if n.quoted then n
  else if c = '(' then { n with depth := n.depth + 1 }
  else if c = ')' then { n with depth := n.depth - 1 }
  else n

end Nesting

/-- The parts of a text between the marks that stand outermost. `piece` is the part that is read so far, and
`skipped` characters of a mark are still to come. -/
def splitFrom (mark : List Char) : Nat → Nesting → List Char → List Char → List (List Char)
  | _, _, piece, [] => [piece]
  | skipped + 1, n, piece, _ :: rest => splitFrom mark skipped n piece rest
  | 0, n, piece, c :: rest =>
    if n.isOutermost && mark.isPrefixOf (c :: rest) then
      piece :: splitFrom mark (mark.length - 1) n [] rest
    else splitFrom mark 0 (n.next c) (piece ++ [c]) rest

/-- A text split at each mark outside quotes and parentheses. -/
def splitOutside (mark sql : String) : List String :=
  (splitFrom mark.toList 0 .outermost [] sql.toList).map String.ofList

/-! ## Parts without a mark -/

/-- No mark begins in `part` when it stands at `n`, whatever follows it, and after it is `n'`. -/
def Passes (mark : List Char) (n : Nesting) (part : List Char) (n' : Nesting) : Prop :=
  ∀ piece rest, splitFrom mark 0 n piece (part ++ rest) = splitFrom mark 0 n' (piece ++ part) rest

section
variable {mark : List Char} {n n' n'' : Nesting}

theorem Passes.nil : Passes mark n [] n := by
  intro piece rest
  simp

theorem Passes.append {xs ys : List Char} (hx : Passes mark n xs n') (hy : Passes mark n' ys n'') :
    Passes mark n (xs ++ ys) n'' := by
  intro piece rest
  rw [List.append_assoc, hx, hy, List.append_assoc]

theorem Passes.cons {c : Char} {xs : List Char} (hc : Passes mark n [c] n') (hx : Passes mark n' xs n'') :
    Passes mark n (c :: xs) n'' :=
  hc.append hx

/-- A character passes where it does not begin a mark. -/
theorem Passes.char {c : Char} (h : n.isOutermost = true → mark.head? ≠ some c) (hmark : mark ≠ []) :
    Passes mark n [c] (n.next c) := by
  intro piece rest
  rw [List.singleton_append, splitFrom]
  cases hn : n.isOutermost with
  | false => simp
  | true =>
    cases mark with
    | nil => exact absurd rfl hmark
    | cons m tail =>
      have hne : m ≠ c := fun hmc => h hn (congrArg some hmc)
      simp [List.isPrefixOf, hne]

/-- The first character of a mark passes before a part that does not go on like the mark. -/
theorem Passes.before {m s d : Char} {tail part : List Char} (hmark : mark = m :: s :: tail)
    (hd : d ≠ s) (hpart : Passes mark (n.next m) (d :: part) n') : Passes mark n (m :: d :: part) n' := by
  intro piece rest
  have hstep : splitFrom mark 0 n piece (m :: (d :: part ++ rest)) =
      splitFrom mark 0 (n.next m) (piece ++ [m]) (d :: part ++ rest) := by
    rw [splitFrom]
    simp [hmark, List.isPrefixOf, hd.symm]
  rw [List.cons_append, hstep, hpart, List.append_assoc, List.singleton_append]

end

/-! ## Joining -/

theorem splitFrom_skip (mark : List Char) (n : Nesting) (piece skipped rest : List Char) :
    splitFrom mark skipped.length n piece (skipped ++ rest) = splitFrom mark 0 n piece rest := by
  induction skipped with
  | nil => rfl
  | cons c skipped ih => simpa only [List.length_cons, List.cons_append, splitFrom] using ih

theorem splitFrom_mark {mark : List Char} (hmark : mark ≠ []) (piece rest : List Char) :
    splitFrom mark 0 .outermost piece (mark ++ rest) =
      piece :: splitFrom mark 0 .outermost [] rest := by
  cases mark with
  | nil => exact absurd rfl hmark
  | cons m tail =>
    have hbegins : (m :: tail).isPrefixOf (m :: (tail ++ rest)) = true := by
      rw [← List.cons_append, List.isPrefixOf_iff_prefix]
      exact List.prefix_append _ _
    rw [List.cons_append, splitFrom, hbegins]
    exact congrArg (piece :: ·) (splitFrom_skip (m :: tail) .outermost [] tail rest)

theorem splitFrom_intercalate {mark part : List Char} {parts : List (List Char)} (hmark : mark ≠ [])
    (h : ∀ p ∈ part :: parts, Passes mark .outermost p .outermost) :
    splitFrom mark 0 .outermost [] (mark.intercalate (part :: parts)) = part :: parts := by
  induction parts generalizing part with
  | nil =>
    have hpart := h part List.mem_cons_self [] []
    simpa [splitFrom] using hpart
  | cons next parts ih =>
    have hpart := h part List.mem_cons_self
    have hrest := ih fun p hp => h p (List.mem_cons_of_mem _ hp)
    have hjoin : mark.intercalate (part :: next :: parts) =
        part ++ (mark ++ mark.intercalate (next :: parts)) := by
      simp
    rw [hjoin, hpart, splitFrom_mark hmark, hrest, List.nil_append]

/-- Parts in which no mark begins come back when the text they are joined to is split. -/
theorem splitOutside_intercalate {mark : String} {parts : List String} (hmark : mark ≠ "")
    (hparts : parts ≠ [])
    (h : ∀ p ∈ parts, Passes mark.toList .outermost p.toList .outermost) :
    splitOutside mark (mark.intercalate parts) = parts := by
  cases parts with
  | nil => exact absurd rfl hparts
  | cons part parts =>
    have hmark' : mark.toList ≠ [] := by simpa using hmark
    have hpass : ∀ p ∈ part.toList :: parts.map String.toList,
        Passes mark.toList .outermost p .outermost := by
      intro p hp
      rw [← List.map_cons] at hp
      obtain ⟨s, hs, rfl⟩ := List.mem_map.mp hp
      exact h s hs
    rw [splitOutside, String.toList_intercalate, List.map_cons, splitFrom_intercalate hmark' hpass]
    simp

end TerseQuery.Sql
