import TerseQuery.Display

/-!
# Chunks of columns

Columns that do not fit the terminal side by side are shown in chunks. A column takes its width and one more
for the space after it. Each chunk takes as many columns as fit, and at least one. Chunks after the first
start with the anchor column, unless nothing fits beside it or the anchor is among the chunk's own columns or
the three before them.

* `first_le_last`: each chunk makes progress, so planning ends.
* `lt_of_mem_columns_of_mem_plan`: the chunks are made of columns that exist.
-/
namespace TerseQuery

/-- Columns that are shown side by side: the anchor, if there is one, and those from `first` to `last`. -/
structure Chunk where
  anchor : Option Nat
  first : Nat
  last : Nat
  deriving DecidableEq, Repr

namespace Chunk

/-- The columns of a chunk, in order. -/
def columns (c : Chunk) : List Nat :=
  c.anchor.toList ++ List.range' c.first (c.last + 1 - c.first)

/-- How many columns before a chunk still show its anchor. -/
def anchorReach : Nat := 3

/-- Whether a total fits a terminal. -/
def fits (limit : TerminalWidth) (total : Nat) : Bool :=
  limit.all fun columns => decide (total ≤ columns)

/-- How many of some columns fit one after the other beside `total` columns of the terminal. -/
def fitCount (limit : TerminalWidth) (total : Nat) : List Nat → Nat
  | [] => 0
  | width :: rest =>
    if fits limit (total + width + 1) then fitCount limit (total + width + 1) rest + 1 else 0

/-- How many columns from `first` on fit beside an anchor. -/
def packCount (widths : List Nat) (limit : TerminalWidth) (first : Nat) (anchor : Option Nat) : Nat :=
  fitCount limit (anchor.elim 0 fun a => widths[a]?.getD 0 + 1) (widths.drop first)

/-- Whether an anchor can be seen without being repeated, when `count` columns are shown from `first` on. -/
def isNear (anchor first count : Nat) : Bool :=
  decide (anchor < first + count) && decide (first ≤ anchor + anchorReach)

/-- The chunk that starts at a column, with an anchor to repeat if there is one. -/
def startingAt (widths : List Nat) (limit : TerminalWidth) (first : Nat) (anchor : Option Nat) : Chunk :=
  let count := packCount widths limit first anchor
  let without := anchor.any fun a => count == 0 || isNear a first count
  let anchor := if without then none else anchor
  let count := if without then packCount widths limit first none else count
  ⟨anchor, first, first + (count - 1)⟩

theorem first_le_last (widths : List Nat) (limit : TerminalWidth) (first : Nat) (anchor : Option Nat) :
    first ≤ (startingAt widths limit first anchor).last :=
  Nat.le_add_right ..

/-- The chunks from a column on, all of them with the anchor to repeat. -/
def planFrom (widths : List Nat) (limit : TerminalWidth) (anchor : Option Nat) (first : Nat) :
    List Chunk :=
  if first < widths.length then
    let chunk := startingAt widths limit first anchor
    chunk :: planFrom widths limit anchor (chunk.last + 1)
  else []
termination_by widths.length - first
decreasing_by
  have := first_le_last widths limit first anchor
  omega

/-- The chunks of all columns. An anchor that is no column is none. -/
def plan (widths : List Nat) (limit : TerminalWidth) (anchor : Nat) : List Chunk :=
  if widths.isEmpty then []
  else
    let chunk := startingAt widths limit 0 none
    chunk :: planFrom widths limit (if anchor < widths.length then some anchor else none) (chunk.last + 1)

/-! ## Chunks are made of columns -/

theorem fitCount_le_length (limit : TerminalWidth) (total : Nat) (widths : List Nat) :
    fitCount limit total widths ≤ widths.length := by
  induction widths generalizing total with
  | nil => simp [fitCount]
  | cons width rest ih =>
    unfold fitCount
    split
    · simpa using ih _
    · simp

theorem packCount_le (widths : List Nat) (limit : TerminalWidth) (first : Nat) (anchor : Option Nat) :
    packCount widths limit first anchor ≤ widths.length - first := by
  simpa [packCount] using fitCount_le_length limit _ (widths.drop first)

theorem last_lt_of_startingAt {widths : List Nat} {first : Nat} (h : first < widths.length)
    (limit : TerminalWidth) (anchor : Option Nat) :
    (startingAt widths limit first anchor).last < widths.length := by
  have := packCount_le widths limit first anchor
  have := packCount_le widths limit first none
  simp only [startingAt]
  split <;> omega

theorem lt_of_mem_columns_of_startingAt {widths : List Nat} {first : Nat} (h : first < widths.length)
    {limit : TerminalWidth} {anchor : Option Nat} (inside : ∀ a ∈ anchor, a < widths.length) {column : Nat}
    (member : column ∈ (startingAt widths limit first anchor).columns) : column < widths.length := by
  have := last_lt_of_startingAt h limit anchor
  rcases List.mem_append.1 member with repeated | own
  · have kept : (startingAt widths limit first anchor).anchor = some column := by simpa using repeated
    simp only [startingAt] at kept
    split at kept
    · simp at kept
    · exact inside column kept
  · have := List.mem_range'_1.1 own
    have : (startingAt widths limit first anchor).first = first := rfl
    omega

theorem lt_of_mem_columns_of_mem_planFrom {widths : List Nat} {limit : TerminalWidth}
    {anchor : Option Nat} (inside : ∀ a ∈ anchor, a < widths.length) {first : Nat} {chunk : Chunk}
    (planned : chunk ∈ planFrom widths limit anchor first) {column : Nat}
    (member : column ∈ chunk.columns) : column < widths.length := by
  fun_induction planFrom widths limit anchor first with
  | case1 first h start ih =>
    rcases List.mem_cons.1 planned with rfl | later
    · exact lt_of_mem_columns_of_startingAt h inside member
    · exact ih later
  | case2 => simp at planned

theorem lt_of_mem_columns_of_mem_plan {widths : List Nat} {limit : TerminalWidth} {anchor : Nat}
    {chunk : Chunk} (planned : chunk ∈ plan widths limit anchor) {column : Nat}
    (member : column ∈ chunk.columns) : column < widths.length := by
  unfold plan at planned
  split at planned
  · simp at planned
  · rename_i nonempty
    rcases List.mem_cons.1 planned with rfl | later
    · have : 0 < widths.length := List.length_pos_iff.2 (by simpa using nonempty)
      exact lt_of_mem_columns_of_startingAt this (by simp) member
    · exact lt_of_mem_columns_of_mem_planFrom (by simp) later member

end Chunk

end TerseQuery
