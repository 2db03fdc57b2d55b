import Mathlib.Algebra.BigOperators.Group.List.Basic
import Mathlib.Data.List.Nodup
import TerseQuery.Proofs.Result.Packing

/-!
# Planning chunks

Chunks are planned one after the other until no column is left.

* `planningEnds_plan`: the loop that plans comes to its end;
* `flatMap_ownColumns_plan`: the chunks' own columns are all columns in order, each of them once;
* `anchor_startingAt`: an anchor that a chunk repeats is none of its own columns;
* `plan_sound`: all of it, and that a chunk which does not fit is one column without an anchor.
-/

namespace TerseQuery

namespace Chunk

/-! ## One chunk -/

/-- The columns of a chunk without its anchor. -/
def ownColumns (c : Chunk) : List Nat :=
  List.range' c.first (c.last + 1 - c.first)

theorem columns_eq (c : Chunk) : c.columns = c.anchor.toList ++ c.ownColumns :=
  rfl

theorem mem_ownColumns {c : Chunk} {column : Nat} :
    column ∈ c.ownColumns ↔ c.first ≤ column ∧ column ≤ c.last := by
  rw [ownColumns, List.mem_range'_1]
  omega

/-- No column is shown twice, unless the anchor is one of the chunk's own columns. -/
theorem nodup_columns {c : Chunk} (h : ∀ a ∈ c.anchor, a ∉ c.ownColumns) : c.columns.Nodup := by
  have hown : c.ownColumns.Nodup := List.nodup_range'
  rw [columns_eq]
  cases hanchor : c.anchor with
  | none => exact hown
  | some a => exact List.nodup_cons.mpr ⟨h a hanchor, hown⟩

variable {limit : TerminalWidth}

theorem anchor_startingAt {widths : List Nat} {first a : Nat} {anchor : Option Nat}
    (h : (startingAt widths limit first anchor).anchor = some a) :
    anchor = some a ∧ a ∉ (startingAt widths limit first anchor).ownColumns := by
  rcases startingAt_eq widths limit first anchor with ⟨b, hanchor, hcount, hnear, heq⟩ | heq
  · rw [heq] at h ⊢
    obtain rfl : b = a := Option.some.inj h
    refine ⟨hanchor, fun hown => ?_⟩
    obtain ⟨hfirst, hlast⟩ := mem_ownColumns.mp hown
    dsimp only at hfirst hlast
    simp only [isNear, Bool.and_eq_false_iff, decide_eq_false_iff_not] at hnear
    omega
  · rw [heq] at h
    cases h

/-! ## The loop -/

/-- Planning from column `first` on, with `chunks` planned before, comes to an end with `planned`. One pass
adds one chunk, and only chunks after the first one have the anchor to repeat. -/
inductive PlanningEnds (widths : List Nat) (limit : TerminalWidth) (anchor : Option Nat) :
    List Chunk → Nat → List Chunk → Prop where
  | done {chunks : List Chunk} {first : Nat} (h : widths.length ≤ first) :
    PlanningEnds widths limit anchor chunks first chunks
  | pass {chunks planned : List Chunk} {first : Nat} {chunk : Chunk} (h : first < widths.length)
    (hchunk : chunk = startingAt widths limit first (if chunks.isEmpty then none else anchor))
    (later : PlanningEnds widths limit anchor (chunks ++ [chunk]) (chunk.last + 1) planned) :
    PlanningEnds widths limit anchor chunks first planned

/-- An anchor that is a column. -/
def anchorAmong (widths : List Nat) (anchor : Nat) : Option Nat :=
  if anchor < widths.length then some anchor else none

theorem planningEnds_planFrom (widths : List Nat) (limit : TerminalWidth) (anchor : Option Nat) (first : Nat) :
    ∀ chunks : List Chunk, chunks ≠ [] →
      PlanningEnds widths limit anchor chunks first (chunks ++ planFrom widths limit anchor first) := by
  fun_induction planFrom widths limit anchor first with
  | case1 first hinside chunk ih =>
    intro chunks h
    have hlater := ih (chunks ++ [chunk]) (List.append_ne_nil_of_right_ne_nil _ (List.cons_ne_nil _ _))
    rw [List.append_assoc, List.singleton_append] at hlater
    exact .pass hinside (by simp [h, chunk]) hlater
  | case2 first houtside =>
    intro chunks _
    rw [List.append_nil]
    exact .done (Nat.le_of_not_lt houtside)

/-- The loop that plans comes to its end. -/
theorem planningEnds_plan (widths : List Nat) (limit : TerminalWidth) (anchor : Nat) :
    PlanningEnds widths limit (anchorAmong widths anchor) [] 0 (plan widths limit anchor) := by
  unfold plan
  split
  · rename_i hempty
    rw [List.isEmpty_iff.mp hempty]
    exact .done (Nat.le_refl _)
  · rename_i hnonempty
    have hpos : 0 < widths.length := List.length_pos_iff.mpr (by simpa using hnonempty)
    exact .pass hpos rfl (planningEnds_planFrom widths limit _ _ _ (List.cons_ne_nil _ _))

/-! ## All chunks -/

theorem flatMap_ownColumns_planFrom (widths : List Nat) (limit : TerminalWidth) (anchor : Option Nat)
    (first : Nat) :
    (planFrom widths limit anchor first).flatMap ownColumns =
      List.range' first (widths.length - first) := by
  fun_induction planFrom widths limit anchor first with
  | case1 first hinside chunk ih =>
    have hfirst : first ≤ chunk.last := first_le_last widths limit first anchor
    have hlast : chunk.last < widths.length := last_lt_of_startingAt hinside limit anchor
    have hown : chunk.ownColumns = List.range' first (chunk.last + 1 - first) := rfl
    have hnext : chunk.last + 1 = first + (chunk.last + 1 - first) := by omega
    have hall : chunk.last + 1 - first + (widths.length - (chunk.last + 1)) = widths.length - first := by
      omega
    rw [List.flatMap_cons, ih, hown, ← hall, ← List.range'_append_1, ← hnext]
  | case2 first houtside =>
    rw [Nat.sub_eq_zero_of_le (Nat.le_of_not_lt houtside)]
    rfl

/-- The own columns of all chunks are all columns in order, each of them once. -/
theorem flatMap_ownColumns_plan (widths : List Nat) (limit : TerminalWidth) (anchor : Nat) :
    (plan widths limit anchor).flatMap ownColumns = List.range widths.length := by
  unfold plan
  split
  · rename_i hempty
    rw [List.isEmpty_iff.mp hempty]
    rfl
  · rename_i hnonempty
    have hpos : 0 < widths.length := List.length_pos_iff.mpr (by simpa using hnonempty)
    have hlast := last_lt_of_startingAt hpos limit none
    have hown : (startingAt widths limit 0 none).ownColumns =
        List.range' 0 ((startingAt widths limit 0 none).last + 1) := rfl
    have hall : (startingAt widths limit 0 none).last + 1 +
        (widths.length - ((startingAt widths limit 0 none).last + 1)) = widths.length := by omega
    rw [List.flatMap_cons, flatMap_ownColumns_planFrom, hown]
    nth_rewrite 2 [← Nat.zero_add ((startingAt widths limit 0 none).last + 1)]
    rw [List.range'_append_1, hall, List.range_eq_range']

section
variable {widths : List Nat} {limit : TerminalWidth} {anchor : Nat} {chunk : Chunk}

theorem anchor_of_mem_plan (h : chunk ∈ plan widths limit anchor) {a : Nat} (ha : a ∈ chunk.anchor) :
    a = anchor ∧ a < widths.length ∧ a ∉ chunk.ownColumns := by
  obtain ⟨start, repeated, -, hrepeated, rfl⟩ := eq_startingAt_of_mem_plan h
  obtain ⟨hgiven, houtside⟩ := anchor_startingAt ha
  obtain ⟨hanchor, hinside⟩ := hrepeated a hgiven
  exact ⟨hanchor, hinside, houtside⟩

/-- A chunk of one column alone has no anchor, for the chunk's own columns are never missing. -/
theorem alone_of_columns_eq (h : chunk ∈ plan widths limit anchor) (halone : chunk.columns = [chunk.first]) :
    chunk.anchor = none ∧ chunk.first = chunk.last := by
  have hlast := first_le_last_of_mem_plan h
  have hlength := congrArg List.length halone
  rw [columns_eq, List.length_append, ownColumns, List.length_range', List.length_singleton] at hlength
  cases hanchor : chunk.anchor with
  | none =>
    rw [hanchor, Option.toList_none, List.length_nil] at hlength
    exact ⟨rfl, by omega⟩
  | some a =>
    rw [hanchor, Option.toList_some, List.length_singleton] at hlength
    omega

end

theorem length_plan_le (widths : List Nat) (limit : TerminalWidth) (anchor : Nat) :
    (plan widths limit anchor).length ≤ widths.length := by
  have hown : ∀ n ∈ (plan widths limit anchor).map fun c => c.ownColumns.length, 1 ≤ n := by
    intro n hn
    obtain ⟨chunk, hchunk, rfl⟩ := List.mem_map.mp hn
    have hlast := first_le_last_of_mem_plan hchunk
    rw [ownColumns, List.length_range']
    omega
  have hall := congrArg List.length (flatMap_ownColumns_plan widths limit anchor)
  rw [List.length_flatMap, List.length_range] at hall
  have hle := List.length_le_sum_of_one_le _ hown
  rwa [List.length_map, hall] at hle

theorem anchor_of_head?_plan {widths : List Nat} {limit : TerminalWidth} {anchor : Nat} {chunk : Chunk}
    (h : (plan widths limit anchor).head? = some chunk) : chunk.anchor = none := by
  unfold plan at h
  split at h
  · cases h
  · obtain rfl := Option.some.inj h
    rfl

/-- Planning ends, after as many passes as there are chunks and so after no more than there are columns. The
chunks' own columns are all columns in order, each of them once. The first chunk has no anchor, and an anchor
that another one shows is the given column and none of the chunk's own, so that a chunk shows no column twice.
What a chunk shows fits the terminal, or it is one column without an anchor. -/
theorem plan_sound (widths : List Nat) (limit : TerminalWidth) (anchor : Nat) :
    let chunks := plan widths limit anchor
    PlanningEnds widths limit (anchorAmong widths anchor) [] 0 chunks ∧ chunks.length ≤ widths.length ∧
      chunks.flatMap ownColumns = List.range widths.length ∧
      (∀ chunk, chunks.head? = some chunk → chunk.anchor = none) ∧
      ∀ chunk ∈ chunks,
        (∀ a ∈ chunk.anchor, a = anchor ∧ a < widths.length ∧ ¬ (chunk.first ≤ a ∧ a ≤ chunk.last)) ∧
          chunk.columns.Nodup ∧
          (fits limit (span widths chunk.columns) = true ∨
            chunk.anchor = none ∧ chunk.first = chunk.last) := by
  intro chunks
  refine ⟨planningEnds_plan widths limit anchor, length_plan_le widths limit anchor,
    flatMap_ownColumns_plan widths limit anchor, fun chunk => anchor_of_head?_plan, fun chunk hchunk => ?_⟩
  have hanchor : ∀ a ∈ chunk.anchor, a = anchor ∧ a < widths.length ∧ a ∉ chunk.ownColumns :=
    fun a ha => anchor_of_mem_plan hchunk ha
  refine ⟨fun a ha => ?_, nodup_columns fun a ha => (hanchor a ha).2.2, ?_⟩
  · obtain ⟨hgiven, hinside, houtside⟩ := hanchor a ha
    exact ⟨hgiven, hinside, fun hown => houtside (mem_ownColumns.mpr hown)⟩
  · rcases fits_span_of_mem_plan hchunk with hfits | halone
    · exact .inl hfits
    · exact .inr (alone_of_columns_eq hchunk halone)

/-- The anchor stands after the columns of the third chunk, among those of the fourth and near the fifth, and
does not fit beside the sixth. -/
theorem plan_sound_anchored :
    let widths := [5, 40, 3, 3, 3, 3, 3, 3, 30, 1]
    let chunks := plan widths (some 14) 4
    chunks = [⟨none, 0, 0⟩, ⟨none, 1, 1⟩, ⟨some 4, 2, 3⟩, ⟨none, 4, 6⟩, ⟨none, 7, 7⟩, ⟨none, 8, 8⟩,
        ⟨some 4, 9, 9⟩] ∧
      chunks.flatMap ownColumns = List.range 10 ∧ chunks.length ≤ 10 ∧
      ∀ a ∈ (⟨some 4, 9, 9⟩ : Chunk).anchor, a = 4 ∧ a < 10 ∧ ¬ (9 ≤ a ∧ a ≤ 9) := by
  intro widths chunks
  have hchunks : chunks = [⟨none, 0, 0⟩, ⟨none, 1, 1⟩, ⟨some 4, 2, 3⟩, ⟨none, 4, 6⟩, ⟨none, 7, 7⟩, ⟨none, 8, 8⟩,
      ⟨some 4, 9, 9⟩] := by decide +kernel
  have h := plan_sound widths (some 14) 4
  have hlast : ⟨some 4, 9, 9⟩ ∈ chunks := by simp [hchunks]
  exact ⟨hchunks, h.2.2.1, h.2.1, (h.2.2.2.2 _ hlast).1⟩

end Chunk

end TerseQuery
