import Mathlib.Algebra.GroupWithZero.Nat
import TerseQuery.Result.Chunks

/-!
# Packing

The columns of a chunk take their widths side by side, and one more each.

* `lt_packCount_iff`: as many columns are packed as fit;
* `startingAt_eq`: a chunk has the anchor, not near, and at least one column beside it, or it has no anchor;
* `fits_span_of_mem_plan`: a chunk that does not fit the terminal is one column;
* `plan_eq_singleton`: columns that fit all together are one chunk.
-/

namespace TerseQuery

namespace Chunk

/-! ## Columns that fit -/

/-- What some columns take side by side, each with one space more. -/
def span (widths columns : List Nat) : Nat :=
  (columns.map fun column => widths[column]?.getD 0 + 1).sum

theorem span_cons (widths : List Nat) (column : Nat) (rest : List Nat) :
    span widths (column :: rest) = widths[column]?.getD 0 + 1 + span widths rest := by
  simp [span]

theorem span_append (widths left right : List Nat) :
    span widths (left ++ right) = span widths left + span widths right := by
  rw [span, List.map_append, List.sum_append]
  rfl

theorem span_pos (widths : List Nat) {columns : List Nat} (h : columns ≠ []) : 0 < span widths columns := by
  cases columns with
  | nil => exact absurd rfl h
  | cons column rest =>
    rw [span_cons]
    omega

theorem span_range' {widths : List Nat} {first count : Nat} (h : first + count ≤ widths.length) :
    span widths (List.range' first count) = (((widths.drop first).take count).map (· + 1)).sum := by
  induction count generalizing first with
  | zero => rfl
  | succ count ih =>
    have hinside : first < widths.length := by omega
    rw [List.range'_succ, span_cons, ih (by omega), List.drop_eq_getElem_cons hinside,
      List.take_succ_cons, List.map_cons, List.sum_cons, List.getElem?_eq_getElem hinside]
    rfl

variable {limit : TerminalWidth}

theorem fits_of_le {total more : Nat} (h : fits limit more = true) (hle : total ≤ more) :
    fits limit total = true := by
  cases limit with
  | none => rfl
  | some columns =>
    have hmore : more ≤ columns := by simpa [fits] using h
    simpa [fits] using Nat.le_trans hle hmore

/-- The columns that are counted fit one after the other. -/
theorem fits_fitCount {total : Nat} {widths : List Nat} (h : fitCount limit total widths ≠ 0) :
    fits limit (total + ((widths.take (fitCount limit total widths)).map (· + 1)).sum) = true := by
  induction widths generalizing total with
  | nil => exact absurd rfl h
  | cons width rest ih =>
    rw [fitCount] at h ⊢
    split at h
    · rename_i hfits
      rw [if_pos hfits, List.take_succ_cons, List.map_cons, List.sum_cons]
      by_cases hrest : fitCount limit (total + width + 1) rest = 0
      · rw [hrest]
        simpa [← Nat.add_assoc] using hfits
      · rw [← Nat.add_assoc]
        exact ih hrest
    · exact absurd rfl h

/-- All columns that fit are counted. -/
theorem le_fitCount {total count : Nat} {widths : List Nat} (hcount : count ≤ widths.length)
    (h : fits limit (total + ((widths.take count).map (· + 1)).sum) = true) :
    count ≤ fitCount limit total widths := by
  induction widths generalizing total count with
  | nil => exact hcount
  | cons width rest ih =>
    cases count with
    | zero => exact Nat.zero_le _
    | succ count =>
      rw [List.take_succ_cons, List.map_cons, List.sum_cons] at h
      have hfirst : fits limit (total + width + 1) = true := fits_of_le h (by omega)
      have hrest : fits limit (total + width + 1 + ((rest.take count).map (· + 1)).sum) = true :=
        fits_of_le h (by omega)
      rw [fitCount, if_pos hfirst]
      exact Nat.succ_le_succ (ih (Nat.le_of_succ_le_succ hcount) hrest)

theorem fitCount_eq_length {total : Nat} {widths : List Nat}
    (h : fits limit (total + (widths.map (· + 1)).sum) = true) :
    fitCount limit total widths = widths.length := by
  apply Nat.le_antisymm (fitCount_le_length limit total widths)
  exact le_fitCount (Nat.le_refl _) (by rwa [List.take_length])

/-! ## One chunk -/

theorem startingAt_eq (widths : List Nat) (limit : TerminalWidth) (first : Nat) (anchor : Option Nat) :
    (∃ a, anchor = some a ∧ packCount widths limit first (some a) ≠ 0 ∧
      isNear a first (packCount widths limit first (some a)) = false ∧
      startingAt widths limit first anchor =
        ⟨some a, first, first + (packCount widths limit first (some a) - 1)⟩) ∨
    startingAt widths limit first anchor =
      ⟨none, first, first + (packCount widths limit first none - 1)⟩ := by
  cases anchor with
  | none => exact .inr rfl
  | some a =>
    by_cases hwithout : (packCount widths limit first (some a) == 0 ||
        isNear a first (packCount widths limit first (some a))) = true
    · right
      simp [startingAt, hwithout]
    · left
      obtain ⟨hcount, hnear⟩ := Bool.or_eq_false_iff.mp (Bool.eq_false_iff.mpr hwithout)
      refine ⟨a, rfl, by simpa using hcount, hnear, ?_⟩
      simp [startingAt, hwithout]

theorem columns_of_count {anchor : Option Nat} {first count : Nat} (h : count ≠ 0) :
    (⟨anchor, first, first + (count - 1)⟩ : Chunk).columns = anchor.toList ++ List.range' first count := by
  have hcount : first + (count - 1) + 1 - first = count := by omega
  rw [columns, hcount]

theorem fits_span_packCount {widths : List Nat} {first : Nat} (hfirst : first < widths.length)
    {anchor : Option Nat} (h : packCount widths limit first anchor ≠ 0) :
    fits limit (span widths
      (anchor.toList ++ List.range' first (packCount widths limit first anchor))) = true := by
  have hinside := packCount_le widths limit first anchor
  have hfits := fits_fitCount h
  rw [← packCount, ← span_range' (by omega)] at hfits
  cases anchor with
  | none => simpa using hfits
  | some a => simpa [span_cons] using hfits

/-- A column is among those that are packed exactly if all columns up to it fit. -/
theorem lt_packCount_iff {widths : List Nat} {first column : Nat} {anchor : Option Nat}
    (hfirst : first ≤ column) (hcolumn : column < widths.length) :
    column < first + packCount widths limit first anchor ↔
      fits limit (span widths (anchor.toList ++ List.range' first (column + 1 - first))) = true := by
  constructor
  · intro hpacked
    have hcount : packCount widths limit first anchor ≠ 0 := by omega
    have hfits := fits_span_packCount (Nat.lt_of_le_of_lt hfirst hcolumn) hcount
    have hsplit : packCount widths limit first anchor =
        column + 1 - first + (packCount widths limit first anchor - (column + 1 - first)) := by omega
    rw [hsplit, ← List.range'_append_1, ← List.append_assoc, span_append] at hfits
    exact fits_of_le hfits (Nat.le_add_right _ _)
  · intro hfits
    have hcount : column + 1 - first ≤ packCount widths limit first anchor := by
      refine le_fitCount (by rw [List.length_drop]; omega) ?_
      rw [← span_range' (by omega)]
      cases anchor with
      | none => simpa using hfits
      | some a => simpa [span_cons] using hfits
    omega

/-- A chunk fits the terminal, or it is one column. -/
theorem fits_span_startingAt {widths : List Nat} {first : Nat} (hfirst : first < widths.length)
    (limit : TerminalWidth) (anchor : Option Nat) :
    fits limit (span widths (startingAt widths limit first anchor).columns) = true ∨
      (startingAt widths limit first anchor).columns = [first] := by
  rcases startingAt_eq widths limit first anchor with ⟨a, -, hcount, -, heq⟩ | heq
  · rw [heq, columns_of_count hcount]
    exact .inl (fits_span_packCount hfirst hcount)
  · rw [heq]
    by_cases hcount : packCount widths limit first none = 0
    · right
      simp [columns, hcount]
    · left
      rw [columns_of_count hcount]
      exact fits_span_packCount hfirst hcount

/-! ## All chunks -/

theorem eq_startingAt_of_mem_planFrom {widths : List Nat} {anchor : Option Nat} {first : Nat} {chunk : Chunk}
    (h : chunk ∈ planFrom widths limit anchor first) :
    ∃ start, start < widths.length ∧ chunk = startingAt widths limit start anchor := by
  fun_induction planFrom widths limit anchor first with
  | case1 first hinside start ih =>
    rcases List.mem_cons.mp h with rfl | hlater
    · exact ⟨first, hinside, rfl⟩
    · exact ih hlater
  | case2 => cases h

theorem eq_startingAt_of_mem_plan {widths : List Nat} {anchor : Nat} {chunk : Chunk}
    (h : chunk ∈ plan widths limit anchor) :
    ∃ start repeated, start < widths.length ∧ (∀ a ∈ repeated, a = anchor ∧ a < widths.length) ∧
      chunk = startingAt widths limit start repeated := by
  unfold plan at h
  split at h
  · cases h
  · rename_i hnonempty
    rcases List.mem_cons.mp h with rfl | hlater
    · exact ⟨0, none, List.length_pos_iff.mpr (by simpa using hnonempty), by simp, rfl⟩
    · obtain ⟨start, hinside, heq⟩ := eq_startingAt_of_mem_planFrom hlater
      refine ⟨start, _, hinside, fun a ha => ?_, heq⟩
      split at ha
      · rename_i hcolumn
        obtain rfl : anchor = a := Option.some.inj ha
        exact ⟨rfl, hcolumn⟩
      · cases ha

theorem first_le_last_of_mem_plan {widths : List Nat} {anchor : Nat} {chunk : Chunk}
    (h : chunk ∈ plan widths limit anchor) : chunk.first ≤ chunk.last := by
  obtain ⟨start, repeated, -, -, rfl⟩ := eq_startingAt_of_mem_plan h
  exact first_le_last widths limit start repeated

theorem columns_ne_nil_of_mem_plan {widths : List Nat} {anchor : Nat} {chunk : Chunk}
    (h : chunk ∈ plan widths limit anchor) : chunk.columns ≠ [] := by
  have hlast := first_le_last_of_mem_plan h
  have hmem : chunk.first ∈ chunk.columns :=
    List.mem_append_right _ (List.mem_range'_1.mpr ⟨Nat.le_refl _, by omega⟩)
  exact List.ne_nil_of_mem hmem

/-- A planned chunk fits the terminal, or it is one column. -/
theorem fits_span_of_mem_plan {widths : List Nat} {anchor : Nat} {chunk : Chunk}
    (h : chunk ∈ plan widths limit anchor) :
    fits limit (span widths chunk.columns) = true ∨ chunk.columns = [chunk.first] := by
  obtain ⟨start, repeated, hinside, -, rfl⟩ := eq_startingAt_of_mem_plan h
  exact fits_span_startingAt hinside limit repeated

/-- Columns that fit all together, or a column alone, are one chunk. -/
theorem plan_eq_singleton {widths : List Nat} (hnonempty : widths ≠ [])
    (h : fits limit (widths.map (· + 1)).sum = true ∨ widths.length = 1) (anchor : Nat) :
    plan widths limit anchor = [⟨none, 0, widths.length - 1⟩] := by
  have hlength : 0 < widths.length := List.length_pos_iff.mpr hnonempty
  have hcount : packCount widths limit 0 none - 1 = widths.length - 1 := by
    rcases h with hfits | hone
    · have hall : packCount widths limit 0 none = widths.length :=
        fitCount_eq_length (by simpa using hfits)
      rw [hall]
    · have hle := packCount_le widths limit 0 none
      omega
  have hchunk : startingAt widths limit 0 none = ⟨none, 0, widths.length - 1⟩ := by
    rw [← hcount]
    simp [startingAt]
  have hlast : widths.length - 1 + 1 = widths.length := Nat.sub_add_cancel hlength
  rw [plan, if_neg (by simpa using hnonempty), hchunk]
  dsimp only
  rw [hlast, planFrom, if_neg (Nat.lt_irrefl _)]

end Chunk

end TerseQuery
