import TerseQuery.Proofs.Checked.Access
import TerseQuery.Proofs.Result.Fit

/-!
# Results shown with accesses

Chunks are planned with the width of the anchor looked up, blocks are shown with each header and each width
looked up, and texts are filled up by differences of widths. The anchor is known to be a column before the first
chunk is planned, and headers are no wider than the widest of them; so each of these accesses succeeds, but for
a result with rows and without columns that is to be shown in one block.

* `planFrom_eq`, `plan_eq`: the chunks of columns, whatever the widths and the anchor are;
* `formatLine_eq`, `banner_eq`, `verticalLines_eq`: lines filled up;
* `lines_eq`: the lines that show a result;
* `lines_eq_none_iff`: the results that cannot be shown.
-/

namespace TerseQuery.Checked

/-! ## Chunks -/

/-- The last of some columns with widths that fit one after the other beside `total` columns of the terminal,
`last` if none of them does. -/
def lastFitting (limit : TerminalWidth) (total : Nat) (last : Option Nat) : List (Nat × Nat) → Option Nat
  | [] => last
  | (width, column) :: rest =>
    if Chunk.fits limit (total + width + 1) then lastFitting limit (total + width + 1) (some column) rest
    else last

/-- The last column that fits from `first` on beside an anchor, if one does. -/
def pack (widths : List Nat) (limit : TerminalWidth) (first : Nat) (anchor : Option Nat) :
    Option (Option Nat) := do
  let total ← match anchor with
    | none => some 0
    | some a => widths[a]?.map (· + 1)
  return lastFitting limit total none ((widths.drop first).zipIdx first)

/-- The chunk that starts at a column, with an anchor to repeat if there is one. -/
def chunkAt (widths : List Nat) (limit : TerminalWidth) (first : Nat) (anchor : Option Nat) : Option Chunk := do
  let last ← pack widths limit first anchor
  match anchor with
  | none => return ⟨none, first, last.getD first⟩
  | some a =>
    if last.any (fun last => a ≤ last && first ≤ a + Chunk.anchorReach) || last.isNone then
      let last ← pack widths limit first none
      return ⟨none, first, last.getD first⟩
    else return ⟨some a, first, last.getD first⟩

/-- The last of `count` columns from `first` on, if there are any. -/
def lastOf (first count : Nat) : Option Nat :=
  if count = 0 then none else some (first + (count - 1))

theorem lastOf_succ (first count : Nat) :
    lastOf first (count + 1) = (lastOf (first + 1) count).or (some first) := by
  cases count with
  | zero => rfl
  | succ count =>
    simp only [lastOf, Nat.add_eq_zero_iff, Nat.one_ne_zero, and_false, ↓reduceIte, Option.some_or]
    congr 1
    omega

theorem getD_lastOf (first count : Nat) : (lastOf first count).getD first = first + (count - 1) := by
  cases count <;> rfl

/-- An anchor is left out if it is near the columns, or if none fits beside it. -/
theorem leavesOut_lastOf (a first count : Nat) :
    ((lastOf first count).any (fun last => a ≤ last && first ≤ a + Chunk.anchorReach) ||
      (lastOf first count).isNone) = (count == 0 || Chunk.isNear a first count) := by
  cases count with
  | zero => rfl
  | succ count =>
    have hlast : a ≤ first + count ↔ a < first + (count + 1) := by omega
    simp [lastOf, Chunk.isNear, hlast]

theorem lastFitting_eq (limit : TerminalWidth) (total first : Nat) (last : Option Nat) (widths : List Nat) :
    lastFitting limit total last (widths.zipIdx first) =
      (lastOf first (Chunk.fitCount limit total widths)).or last := by
  induction widths generalizing total first last with
  | nil => rfl
  | cons width rest ih =>
    rw [List.zipIdx_cons, lastFitting, Chunk.fitCount]
    split
    · rw [ih, lastOf_succ]
      cases lastOf (first + 1) (Chunk.fitCount limit (total + width + 1) rest) <;> rfl
    · rfl

theorem pack_eq {widths : List Nat} {anchor : Option Nat} (h : ∀ a ∈ anchor, a < widths.length)
    (limit : TerminalWidth) (first : Nat) :
    pack widths limit first anchor = some (lastOf first (Chunk.packCount widths limit first anchor)) := by
  cases anchor with
  | none =>
    rw [pack, Chunk.packCount]
    simp [lastFitting_eq]
  | some a =>
    rw [pack, Chunk.packCount]
    simp [lastFitting_eq, List.getElem?_eq_getElem (h a rfl)]

theorem chunkAt_eq {widths : List Nat} {anchor : Option Nat} (h : ∀ a ∈ anchor, a < widths.length)
    (limit : TerminalWidth) (first : Nat) :
    chunkAt widths limit first anchor = some (Chunk.startingAt widths limit first anchor) := by
  rw [chunkAt, pack_eq h, Option.bind_eq_bind, Option.bind_some]
  cases anchor with
  | none =>
    dsimp only
    rw [getD_lastOf]
    rfl
  | some a =>
    dsimp only
    rw [leavesOut_lastOf, pack_eq (by simp), Option.bind_some, getD_lastOf, getD_lastOf]
    cases hout : (Chunk.packCount widths limit first (some a) == 0 ||
      Chunk.isNear a first (Chunk.packCount widths limit first (some a))) <;>
      simp [Chunk.startingAt, hout]

theorem first_le_last_of_chunkAt {widths : List Nat} {limit : TerminalWidth} {first : Nat} {anchor : Option Nat}
    {chunk : Chunk} (h : chunkAt widths limit first anchor = some chunk) : first ≤ chunk.last := by
  by_cases hinside : ∀ a ∈ anchor, a < widths.length
  · rw [chunkAt_eq hinside] at h
    cases h
    exact Chunk.first_le_last widths limit first anchor
  · obtain ⟨a, rfl, houtside⟩ : ∃ a, anchor = some a ∧ ¬ a < widths.length := by simpa using hinside
    have hpack : pack widths limit first (some a) = none := by
      rw [pack, List.getElem?_eq_none (Nat.le_of_not_lt houtside)]
      rfl
    rw [chunkAt, hpack] at h
    cases h

/-- The chunks from a column on after those that are planned. Only chunks after the first one repeat the
anchor. -/
def planFrom (widths : List Nat) (limit : TerminalWidth) (anchor : Option Nat) (chunks : List Chunk)
    (first : Nat) : Option (List Chunk) :=
  if first < widths.length then
    match h : chunkAt widths limit first (if chunks.isEmpty then none else anchor) with
    | none => none
    | some chunk => planFrom widths limit anchor (chunks ++ [chunk]) (chunk.last + 1)
  else some chunks
termination_by widths.length - first
decreasing_by
  have := first_le_last_of_chunkAt h
  omega

/-- The chunks of all columns. An anchor that is no column is none. -/
def plan (widths : List Nat) (limit : TerminalWidth) (anchor : Nat) : Option (List Chunk) :=
  planFrom widths limit (if anchor < widths.length then some anchor else none) [] 0

/-- One more chunk is planned. -/
theorem planFrom_of_chunkAt {widths : List Nat} {limit : TerminalWidth} {anchor : Option Nat}
    {chunks : List Chunk} {first : Nat} {chunk : Chunk} (hfirst : first < widths.length)
    (h : chunkAt widths limit first (if chunks.isEmpty then none else anchor) = some chunk) :
    planFrom widths limit anchor chunks first =
      planFrom widths limit anchor (chunks ++ [chunk]) (chunk.last + 1) := by
  rw [planFrom, if_pos hfirst]
  split
  · rename_i hnone
    rw [h] at hnone
    cases hnone
  · rename_i found hfound
    rw [h] at hfound
    cases hfound
    rfl

theorem planFrom_eq {widths : List Nat} {limit : TerminalWidth} {anchor : Option Nat}
    (h : ∀ a ∈ anchor, a < widths.length) (first : Nat) : ∀ {chunks : List Chunk}, chunks ≠ [] →
      planFrom widths limit anchor chunks first =
        some (chunks ++ Chunk.planFrom widths limit anchor first) := by
  -- Once a chunk is planned, all others are planned with the anchor.
  fun_induction Chunk.planFrom widths limit anchor first with
  | @case1 first hfirst chunk ih =>
    intro chunks hstarted
    have hchunk : chunkAt widths limit first (if chunks.isEmpty then none else anchor) = some chunk := by
      rw [List.isEmpty_eq_false_iff.mpr hstarted, if_neg Bool.false_ne_true, chunkAt_eq h]
    rw [planFrom_of_chunkAt hfirst hchunk, ih (by simp), List.append_assoc, List.singleton_append]
  | case2 first hend =>
    intro chunks hstarted
    rw [planFrom, if_neg hend, List.append_nil]

theorem plan_eq (widths : List Nat) (limit : TerminalWidth) (anchor : Nat) :
    plan widths limit anchor = some (Chunk.plan widths limit anchor) := by
  -- The one test that the accesses to the anchor's width rest on.
  have hinside : ∀ a ∈ (if anchor < widths.length then some anchor else none), a < widths.length := by simp
  rw [plan, Chunk.plan]
  cases widths with
  | nil =>
    rw [planFrom]
    rfl
  | cons width rest =>
    have hchunk : chunkAt (width :: rest) limit 0 (if ([] : List Chunk).isEmpty then none
        else if anchor < (width :: rest).length then some anchor else none) =
        some (Chunk.startingAt (width :: rest) limit 0 none) :=
      chunkAt_eq (by simp) limit 0
    rw [planFrom_of_chunkAt (Nat.zero_lt_succ _) hchunk, planFrom_eq hinside _ (by simp)]
    rfl

/-! ## Lines -/

/-- A text filled up to a width, if it is not as wide. -/
def filled (cell : String × Nat) : Option String :=
  if Text.displayWidth cell.1 < cell.2 then do
    let padding ← minus? cell.2 (Text.displayWidth cell.1)
    return cell.1 ++ String.ofList (List.replicate padding ' ')
  else some cell.1

/-- A line cut after its last character that is no blank. -/
def trimmed (line : String) : Option String := do
  let (kept, _) ← splitAt? (byteLength (Text.trimEnd line.toList)) line.toList
  return String.ofList kept

/-- Cells side by side. -/
def formatLine (cells : List (String × Nat)) : Option String := do
  let texts ← cells.mapM filled
  trimmed (" ".intercalate texts)

theorem filled_eq (cell : String × Nat) : filled cell = some (TerseQuery.filled cell) := by
  rw [filled, TerseQuery.filled]
  split
  · rename_i hnarrow
    rw [minus?_of_le (Nat.le_of_lt hnarrow)]
    rfl
  · rename_i hwide
    have hnone : cell.2 - Text.displayWidth cell.1 = 0 := Nat.sub_eq_zero_of_le (Nat.le_of_not_lt hwide)
    simp [hnone]

theorem trimmed_eq (line : String) : trimmed line = some (String.ofList (Text.trimEnd line.toList)) := by
  obtain ⟨blanks, hline, -⟩ := Text.trimEnd_append line.toList
  have hcut := splitAt?_append (Text.trimEnd line.toList) blanks
  rw [← hline] at hcut
  rw [trimmed, hcut]
  rfl

theorem formatLine_eq (cells : List (String × Nat)) :
    formatLine cells = some (TerseQuery.formatLine cells) := by
  rw [formatLine, mapM_eq_some_map fun cell _ => filled_eq cell, TerseQuery.formatLine_eq, Option.bind_eq_bind,
    Option.bind_some, trimmed_eq]

section
variable (r : ResultSet) (widths : List Nat) (chunk : Chunk)

/-- The line of headers of a chunk. -/
def headerLine : Option String := do
  let cells ← chunk.columns.mapM fun column => do
    let header ← r.columns[column]?
    let width ← widths[column]?
    return (header, width)
  formatLine cells

/-- The line of a row in a chunk. -/
def rowLine (row : List Json) : Option String := do
  let cells ← chunk.columns.mapM fun column => do
    let width ← widths[column]?
    return (ResultSet.textAt row column, width)
  formatLine cells

/-- The lines of a chunk: headers, an empty line, rows. -/
def blockLines : Option (List String) := do
  let header ← headerLine r widths chunk
  let rows ← r.rows.mapM (rowLine widths chunk)
  return header :: "" :: rows

theorem blockLines_eq : blockLines r widths chunk = r.blockLines? widths chunk := by
  have hformat : formatLine = fun cells => some (TerseQuery.formatLine cells) := funext formatLine_eq
  have hrow : rowLine widths chunk = ResultSet.rowLine? widths chunk := by
    funext row
    rw [rowLine, hformat]
    rfl
  rw [blockLines, headerLine, hformat, hrow]
  rfl

end

/-- The line over a record. -/
def banner (number recordWidth : Nat) : Option String := do
  let label := s!" {number}. row "
  let total := max recordWidth (label.length + 2 * ResultSet.bannerStars)
  let stars ← minus? total label.length
  let right ← minus? stars (stars / 2)
  return String.ofList (List.replicate (stars / 2) '*') ++ label ++ String.ofList (List.replicate right '*')

/-- The line of a field, the headers aligned at their ends. -/
def fieldLine (headerWidth : Nat) (row : List Json) (field : String × Nat) : Option String := do
  let padding ← minus? headerWidth (Text.displayWidth field.1)
  return String.ofList (List.replicate padding ' ') ++ field.1 ++ ": " ++ ResultSet.textAt row field.2

/-- The lines of a record. -/
def recordLines (columns : List String) (headerWidth recordWidth : Nat) (record : List Json × Nat) :
    Option (List String) := do
  let first ← banner (record.2 + 1) recordWidth
  let fields ← columns.zipIdx.mapM (fieldLine headerWidth record.1)
  return first :: fields

/-- The lines of all records. -/
def verticalLines (r : ResultSet) : Option (List String) := do
  let headerWidth := (r.columns.map Text.displayWidth).foldl max 0
  let valueWidth := r.columnWidths.foldl max 0
  let records ← r.rows.zipIdx.mapM (recordLines r.columns headerWidth (headerWidth + 2 + valueWidth))
  return records.flatten

theorem banner_eq (number recordWidth : Nat) :
    banner number recordWidth = some (ResultSet.banner number recordWidth) := by
  simp only [banner]
  rw [minus?_of_le (by omega), Option.bind_eq_bind, Option.bind_some, minus?_of_le (Nat.div_le_self _ _)]
  rfl

theorem displayWidth_le_foldl_max {columns : List String} {header : String} (h : header ∈ columns) :
    Text.displayWidth header ≤ (columns.map Text.displayWidth).foldl max 0 := by
  rw [List.foldl_max]
  exact Nat.le_trans (List.le_max?_getD_of_mem (List.mem_map_of_mem h)) (Nat.le_max_right _ _)

theorem recordLines_eq {columns : List String} {headerWidth : Nat}
    (h : ∀ header ∈ columns, Text.displayWidth header ≤ headerWidth) (recordWidth : Nat)
    (record : List Json × Nat) :
    recordLines columns headerWidth recordWidth record =
      some (ResultSet.banner (record.2 + 1) recordWidth :: columns.zipIdx.map fun field =>
        String.ofList (List.replicate (headerWidth - Text.displayWidth field.1) ' ') ++ field.1 ++ ": " ++
          ResultSet.textAt record.1 field.2) := by
  have hfield : ∀ field ∈ columns.zipIdx, fieldLine headerWidth record.1 field =
      some (String.ofList (List.replicate (headerWidth - Text.displayWidth field.1) ' ') ++ field.1 ++ ": " ++
        ResultSet.textAt record.1 field.2) := by
    intro field hmem
    rw [fieldLine, minus?_of_le (h field.1 (List.fst_mem_of_mem_zipIdx hmem))]
    rfl
  rw [recordLines, banner_eq, mapM_eq_some_map hfield]
  rfl

theorem verticalLines_eq (r : ResultSet) : verticalLines r = some r.verticalLines := by
  have hheader : ∀ header ∈ r.columns,
      Text.displayWidth header ≤ (r.columns.map Text.displayWidth).foldl max 0 :=
    fun _ => displayWidth_le_foldl_max
  have hrecord := recordLines_eq hheader
  rw [verticalLines, mapM_eq_some_map fun record _ => hrecord _ record, ResultSet.verticalLines,
    List.flatMap_def]
  rfl

/-! ## Results -/

/-- The lines that show a result. -/
def lines (r : ResultSet) (mode : DisplayMode) (width : TerminalWidth) (anchor : Nat) :
    Option (List String) :=
  if r.isEmpty then some []
  else
    match mode with
    | .tab => some r.tabLines
    | .nowrap => blockLines r r.columnWidths ⟨none, 0, r.columnWidths.length - 1⟩
    | .wrap => do
      let chunks ← plan r.columnWidths width anchor
      let blocks ← chunks.mapM (blockLines r r.columnWidths)
      return [""].intercalate blocks
    | .vertical => verticalLines r

theorem lines_eq (r : ResultSet) (mode : DisplayMode) (width : TerminalWidth) (anchor : Nat) :
    lines r mode width anchor = r.lines? mode width anchor := by
  have hblock : blockLines r r.columnWidths = r.blockLines? r.columnWidths :=
    funext (blockLines_eq r r.columnWidths)
  unfold lines ResultSet.lines?
  split
  · rfl
  · cases mode with
    | tab => rfl
    | nowrap => exact congrFun hblock _
    | wrap =>
      dsimp only
      rw [plan_eq, hblock]
      rfl
    | vertical => exact verticalLines_eq r

theorem nowrapLines?_eq_none {r : ResultSet} (h : r.columns = []) : r.nowrapLines? = none := by
  have hwidths : r.columnWidths = [] := by rw [ResultSet.columnWidths, h]; rfl
  rw [ResultSet.nowrapLines?, hwidths, ResultSet.blockLines?, ResultSet.headerLine?]
  simp [Chunk.columns, h]

/-- Only a result with rows and without columns cannot be shown, and this only without wrapping. -/
theorem lines_eq_none_iff (r : ResultSet) (mode : DisplayMode) (width : TerminalWidth) (anchor : Nat) :
    lines r mode width anchor = none ↔ mode = .nowrap ∧ r.rows ≠ [] ∧ r.columns = [] := by
  rw [lines_eq]
  by_cases hrows : r.rows = []
  · simp [ResultSet.lines?, ResultSet.isEmpty, hrows]
  · have hempty : r.isEmpty = false := by simpa [ResultSet.isEmpty] using hrows
    cases mode with
    | tab => simp [ResultSet.lines?, hempty]
    | vertical => simp [ResultSet.lines?, hempty]
    | wrap =>
      obtain ⟨shown, hshown⟩ := Option.isSome_iff_exists.mp (r.wrapLines?_isSome width anchor)
      simp [ResultSet.lines?, hempty, hshown]
    | nowrap =>
      by_cases hcolumns : r.columns = []
      · simp [ResultSet.lines?, hempty, hrows, hcolumns, nowrapLines?_eq_none]
      · have hshown := r.nowrapLines?_isSome (by simpa [ResultSet.hasColumns] using hcolumns)
        obtain ⟨shown, hshown⟩ := Option.isSome_iff_exists.mp hshown
        simp [ResultSet.lines?, hempty, hcolumns, hshown]

/-- One row, and no column for it to be shown in. -/
example : lines ⟨[], [], [[.null]], none⟩ .nowrap none 0 = none := by decide +kernel

end TerseQuery.Checked
