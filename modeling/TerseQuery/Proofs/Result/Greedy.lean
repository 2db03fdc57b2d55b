import Mathlib.Data.List.Chain
import TerseQuery.Proofs.Result.Planning

/-!
# Chunks take all they can

A chunk is packed with as many columns as fit, with the anchor or without it. The anchor is left out only
where its rule says so, and that rule is judged by the packing beside the anchor.

* `packed_or_alone_of_mem_plan`: each chunk is packed, or it is one column that does not fit;
* `anchor_startingAt_eq_none_iff`: when a chunk leaves the anchor out;
* `plan_greedy`: both, for all chunks of a plan.
-/

namespace TerseQuery

namespace Chunk

/-- A chunk that fits, and that would not fit with the next column, if there is one. -/
structure Packed (widths : List Nat) (limit : TerminalWidth) (c : Chunk) : Prop where
  first_le_last : c.first ≤ c.last
  lt_length : c.last < widths.length
  fits : fits limit (span widths c.columns) = true
  full : c.last + 1 < widths.length → Chunk.fits limit (span widths (c.columns ++ [c.last + 1])) = false

variable {widths : List Nat} {limit : TerminalWidth} {first : Nat}

/-! ## Packing -/

theorem columns_next {c : Chunk} (h : c.first ≤ c.last) :
    c.columns ++ [c.last + 1] = (⟨c.anchor, c.first, c.last + 1⟩ : Chunk).columns := by
  have hlength : c.last + 1 + 1 - c.first = c.last + 1 - c.first + 1 := by omega
  have hnext : c.first + (c.last + 1 - c.first) = c.last + 1 := by omega
  simp only [columns, hlength, List.range'_1_concat, hnext, List.append_assoc]

/-- The columns that are packed are the only ones that a packed chunk can have. -/
theorem packed_iff {anchor : Option Nat} {last : Nat} (hfirst : first < widths.length) :
    Packed widths limit ⟨anchor, first, last⟩ ↔
      packCount widths limit first anchor ≠ 0 ∧ last = first + (packCount widths limit first anchor - 1) := by
  have hinside := packCount_le widths limit first anchor
  constructor
  · intro h
    have hlast := (lt_packCount_iff h.first_le_last h.lt_length).mpr h.fits
    have hnext : ¬ last + 1 < first + packCount widths limit first anchor := by
      intro hpacked
      have hcolumn : last + 1 < widths.length := by omega
      have hfits := (lt_packCount_iff (Nat.le_succ_of_le h.first_le_last) hcolumn).mp hpacked
      have hfull := h.full hcolumn
      rw [columns_next h.first_le_last] at hfull
      exact absurd (hfull.symm.trans hfits) Bool.false_ne_true
    have hle := h.first_le_last
    dsimp only at hlast hle
    omega
  · rintro ⟨hcount, rfl⟩
    have hle : first ≤ first + (packCount widths limit first anchor - 1) := Nat.le_add_right ..
    refine ⟨hle, by dsimp only; omega, ?_, fun hcolumn => ?_⟩
    · have hpacked : first + (packCount widths limit first anchor - 1) <
          first + packCount widths limit first anchor := by omega
      exact (lt_packCount_iff hle (by omega)).mp hpacked
    · rw [columns_next hle, Bool.eq_false_iff]
      intro hfits
      have hpacked : first + (packCount widths limit first anchor - 1) + 1 <
          first + packCount widths limit first anchor :=
        (lt_packCount_iff (Nat.le_succ_of_le hle) hcolumn).mpr hfits
      omega

theorem packCount_eq_zero_iff {anchor : Option Nat} (hfirst : first < widths.length) :
    packCount widths limit first anchor = 0 ↔ fits limit (span widths (anchor.toList ++ [first])) = false := by
  have hone : first < first + packCount widths limit first anchor ↔
      fits limit (span widths (anchor.toList ++ List.range' first (first + 1 - first))) = true :=
    lt_packCount_iff (Nat.le_refl first) hfirst
  rw [Nat.add_sub_cancel_left] at hone
  rw [Bool.eq_false_iff, ne_eq, ← List.range'_one, ← hone]
  omega

/-! ## One chunk -/

/-- A chunk is packed with the anchor that it shows, or it is one column that does not fit. -/
theorem packed_or_alone_of_startingAt (hfirst : first < widths.length) (limit : TerminalWidth)
    (anchor : Option Nat) :
    Packed widths limit (startingAt widths limit first anchor) ∨
      (startingAt widths limit first anchor).columns = [first] ∧ fits limit (span widths [first]) = false := by
  rcases startingAt_eq widths limit first anchor with ⟨a, -, hcount, -, heq⟩ | heq
  · rw [heq]
    exact .inl ((packed_iff hfirst).mpr ⟨hcount, rfl⟩)
  · rw [heq]
    by_cases hcount : packCount widths limit first none = 0
    · right
      exact ⟨by simp [columns, hcount], (packCount_eq_zero_iff hfirst).mp hcount⟩
    · exact .inl ((packed_iff hfirst).mpr ⟨hcount, rfl⟩)

/-- A chunk leaves the anchor out if no column fits beside it, if it is among the columns that would be packed
beside it, or if it is one of the three before them. -/
theorem anchor_startingAt_eq_none_iff (hfirst : first < widths.length) (a : Nat) :
    (startingAt widths limit first (some a)).anchor = none ↔
      fits limit (span widths [a, first]) = false ∨
        (∃ last, Packed widths limit ⟨some a, first, last⟩ ∧ first ≤ a ∧ a ≤ last) ∨
        a < first ∧ first ≤ a + 3 := by
  have hzero : packCount widths limit first (some a) = 0 ↔ fits limit (span widths [a, first]) = false :=
    packCount_eq_zero_iff hfirst
  have hpacked (last : Nat) : Packed widths limit ⟨some a, first, last⟩ ↔
      packCount widths limit first (some a) ≠ 0 ∧
        last = first + (packCount widths limit first (some a) - 1) := packed_iff hfirst
  have hleft : (startingAt widths limit first (some a)).anchor = none ↔
      packCount widths limit first (some a) = 0 ∨
        a < first + packCount widths limit first (some a) ∧ first ≤ a + 3 := by
    simp only [startingAt, isNear, Option.any_some, ite_eq_left_iff, reduceCtorEq, imp_false,
      Decidable.not_not, Bool.or_eq_true, beq_iff_eq, Bool.and_eq_true, decide_eq_true_eq]
    rfl
  simp only [hleft, ← hzero, hpacked]
  constructor
  · rintro (hnone | ⟨hbefore, hnear⟩)
    · exact .inl hnone
    · by_cases hcount : packCount widths limit first (some a) = 0
      · exact .inl hcount
      · by_cases hown : first ≤ a
        · exact .inr (.inl ⟨_, ⟨hcount, rfl⟩, hown, by omega⟩)
        · exact .inr (.inr ⟨by omega, hnear⟩)
  · rintro (hnone | ⟨last, ⟨hcount, rfl⟩, hown, hlast⟩ | ⟨hbefore, hnear⟩)
    · exact .inl hnone
    · exact .inr ⟨by omega, by omega⟩
    · exact .inr ⟨by omega, hnear⟩

/-! ## All chunks -/

theorem packed_or_alone_of_mem_plan {anchor : Nat} {chunk : Chunk} (h : chunk ∈ plan widths limit anchor) :
    Packed widths limit chunk ∨
      chunk.columns = [chunk.first] ∧ fits limit (span widths [chunk.first]) = false := by
  obtain ⟨start, repeated, hinside, -, rfl⟩ := eq_startingAt_of_mem_plan h
  exact packed_or_alone_of_startingAt hinside limit repeated

/-- Chunks follow one another: each of them starts after the last column of the one before it. -/
def Follows (widths : List Nat) (chunk next : Chunk) : Prop :=
  next.first = chunk.last + 1 ∧ next.first < widths.length

theorem isChain_planFrom (widths : List Nat) (limit : TerminalWidth) (anchor : Option Nat) (chunk : Chunk) :
    (chunk :: planFrom widths limit anchor (chunk.last + 1)).IsChain (Follows widths) := by
  generalize hfirst : chunk.last + 1 = first
  fun_induction planFrom widths limit anchor first generalizing chunk with
  | case1 first hinside next ih => exact .cons_cons ⟨hfirst.symm, hinside⟩ (ih next rfl)
  | case2 => exact .singleton _

theorem isChain_plan (widths : List Nat) (limit : TerminalWidth) (anchor : Nat) :
    (plan widths limit anchor).IsChain (Follows widths) := by
  unfold plan
  split
  · exact .nil
  · exact isChain_planFrom widths limit _ _

/-- Chunks after the first have the anchor to repeat. -/
theorem eq_startingAt_of_mem_tail_plan {anchor : Nat} {chunk : Chunk} (hanchor : anchor < widths.length)
    (h : chunk ∈ (plan widths limit anchor).tail) :
    chunk.first < widths.length ∧ chunk = startingAt widths limit chunk.first (some anchor) := by
  have hnonempty : ¬ widths.isEmpty = true := by
    rw [List.isEmpty_iff, ← List.length_eq_zero_iff]
    omega
  rw [plan, if_neg hnonempty, if_pos hanchor, List.tail_cons] at h
  obtain ⟨start, hinside, rfl⟩ := eq_startingAt_of_mem_planFrom h
  exact ⟨hinside, rfl⟩

/-- A chunk that another one follows would not fit with the first column of that one. -/
theorem not_fits_next {anchor : Nat} {chunk next : Chunk} (h : chunk ∈ plan widths limit anchor)
    (hnext : Follows widths chunk next) : fits limit (span widths (chunk.columns ++ [next.first])) = false := by
  obtain ⟨hfirst, hinside⟩ := hnext
  rcases packed_or_alone_of_mem_plan h with hpacked | ⟨halone, hwide⟩
  · rw [hfirst]
    exact hpacked.full (hfirst ▸ hinside)
  · rw [halone, Bool.eq_false_iff]
    intro hfits
    rw [span_append] at hfits
    exact absurd (fits_of_le hfits (Nat.le_add_right _ _)) (by simp [hwide])

/-- Each chunk shows as many columns as fit: with the same anchor or without one, the next column would not
fit. A chunk after the first leaves the anchor out exactly if no column fits beside it, if it is among the
columns that would be packed beside it, or if it is one of the three before them. -/
theorem plan_greedy {widths : List Nat} (limit : TerminalWidth) {anchor : Nat} (h : anchor < widths.length) :
    let chunks := plan widths limit anchor
    (chunks.IsChain fun chunk next => next.first = chunk.last + 1 ∧
        fits limit (span widths (chunk.columns ++ [chunk.last + 1])) = false) ∧
      ∀ chunk ∈ chunks.tail, chunk.anchor = none ↔
        fits limit (span widths [anchor, chunk.first]) = false ∨
          (∃ last, Packed widths limit ⟨some anchor, chunk.first, last⟩ ∧
            chunk.first ≤ anchor ∧ anchor ≤ last) ∨
          anchor < chunk.first ∧ chunk.first ≤ anchor + 3 := by
  intro chunks
  constructor
  · refine (isChain_plan widths limit anchor).imp_of_mem_imp fun chunk next hchunk _ hnext => ?_
    exact ⟨hnext.1, hnext.1 ▸ not_fits_next hchunk hnext⟩
  · intro chunk hchunk
    obtain ⟨hinside, hchunk⟩ := eq_startingAt_of_mem_tail_plan h hchunk
    rw [← anchor_startingAt_eq_none_iff hinside anchor, ← hchunk]

/-- Beside the anchor two columns would fit after the third chunk, and the anchor is the first of them. It is
the third column before the fifth chunk, does not fit beside the sixth and is shown by the last. -/
theorem plan_greedy_anchored :
    let widths := [5, 40, 3, 3, 3, 3, 3, 3, 30, 1]
    let chunks := plan widths (some 14) 4
    4 < widths.length ∧
      chunks = [⟨none, 0, 0⟩, ⟨none, 1, 1⟩, ⟨some 4, 2, 3⟩, ⟨none, 4, 6⟩, ⟨none, 7, 7⟩, ⟨none, 8, 8⟩,
        ⟨some 4, 9, 9⟩] ∧
      (chunks.IsChain fun chunk next => next.first = chunk.last + 1 ∧
        fits (some 14) (span widths (chunk.columns ++ [chunk.last + 1])) = false) ∧
      ((none : Option Nat) = none ↔ fits (some 14) (span widths [4, 4]) = false ∨
        (∃ last, Packed widths (some 14) ⟨some 4, 4, last⟩ ∧ 4 ≤ 4 ∧ 4 ≤ last) ∨ 4 < 4 ∧ 4 ≤ 4 + 3) ∧
      (some 4 = none ↔ fits (some 14) (span widths [4, 9]) = false ∨
        (∃ last, Packed widths (some 14) ⟨some 4, 9, last⟩ ∧ 9 ≤ 4 ∧ 4 ≤ last) ∨ 4 < 9 ∧ 9 ≤ 4 + 3) := by
  intro widths chunks
  have hchunks : chunks = [⟨none, 0, 0⟩, ⟨none, 1, 1⟩, ⟨some 4, 2, 3⟩, ⟨none, 4, 6⟩, ⟨none, 7, 7⟩, ⟨none, 8, 8⟩,
      ⟨some 4, 9, 9⟩] := by decide +kernel
  have hanchor : 4 < widths.length := by decide
  obtain ⟨hchain, hrule⟩ := plan_greedy (some 14) hanchor
  exact ⟨hanchor, hchunks, hchain, hrule ⟨none, 4, 6⟩ (by simp [chunks, hchunks]),
    hrule ⟨some 4, 9, 9⟩ (by simp [chunks, hchunks])⟩

end Chunk

end TerseQuery
