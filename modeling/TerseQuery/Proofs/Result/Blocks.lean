import TerseQuery.Proofs.ListLemmas
import TerseQuery.Result.Layout

/-!
# Blocks

A block of columns that exist, and what the modes with columns of fixed width make of such blocks.

* `blockLines?_eq`: the lines of a chunk whose columns exist;
* `nowrapLines?_eq`, `wrapLines?_eq`: results with columns in these modes;
* `getElem?_columnWidths`: the width of one column.
-/

namespace TerseQuery

namespace ResultSet

/-! ## Widths -/

/-- The width of a column with a header at a place. -/
def columnWidth (r : ResultSet) (header : String) (column : Nat) : Nat :=
  let width := max (r.displayWidths[column]?.getD 0) (Text.displayWidth header)
  if r.rows.any fun row => lacks row column then max width nullText.length else width

theorem getElem?_columnWidths (r : ResultSet) (column : Nat) :
    r.columnWidths[column]? = r.columns[column]?.map fun header => r.columnWidth header column := by
  rw [columnWidths, List.getElem?_map, List.getElem?_zipIdx, Option.map_map, Nat.zero_add]
  rfl

/-- A column is as wide as it is reported to be, as its header, and as what is shown for missing values. -/
theorem le_columnWidth (r : ResultSet) (header : String) (column : Nat) :
    r.displayWidths[column]?.getD 0 ≤ r.columnWidth header column ∧
      Text.displayWidth header ≤ r.columnWidth header column ∧
      ∀ row ∈ r.rows, lacks row column = true → nullText.length ≤ r.columnWidth header column := by
  simp only [columnWidth]
  split
  · refine ⟨by omega, by omega, fun _ _ _ => by omega⟩
  · rename_i hnone
    refine ⟨by omega, by omega, fun row hrow hlacks => ?_⟩
    exact absurd (List.any_eq_true.mpr ⟨row, hrow, hlacks⟩) hnone

theorem columnWidths_ne_nil {r : ResultSet} (h : r.hasColumns = true) : r.columnWidths ≠ [] := by
  have hne : r.columns ≠ [] := by simpa [hasColumns] using h
  rw [← List.length_pos_iff, length_columnWidths]
  exact List.length_pos_iff.mpr hne

/-! ## Lines -/

section
variable (r : ResultSet) (columns : List Nat)

/-- The headers of some columns with the widths of these. -/
def headerCells : List (String × Nat) :=
  columns.map fun column => (r.columns[column]?.getD "", r.columnWidths[column]?.getD 0)

/-- The texts of a row in some columns with the widths of these. -/
def rowCells (row : List Json) : List (String × Nat) :=
  columns.map fun column => (textAt row column, r.columnWidths[column]?.getD 0)

/-- The lines of some columns: headers, an empty line, rows. -/
def block : List String :=
  formatLine (r.headerCells columns) :: "" :: r.rows.map fun row => formatLine (r.rowCells columns row)

end

variable (r : ResultSet)

theorem blockLines?_eq {chunk : Chunk} (h : ∀ column ∈ chunk.columns, column < r.columns.length) :
    r.blockLines? r.columnWidths chunk = some (r.block chunk.columns) := by
  have hwidth : ∀ column ∈ chunk.columns,
      r.columnWidths[column]? = some (r.columnWidths[column]?.getD 0) := by
    intro column hmem
    have hinside : column < r.columnWidths.length := r.length_columnWidths ▸ h column hmem
    rw [List.getElem?_eq_getElem hinside]
    rfl
  have hheader : r.headerLine? r.columnWidths chunk = some (formatLine (r.headerCells chunk.columns)) := by
    rw [headerLine?, mapM_eq_some_map (g := fun column =>
      (r.columns[column]?.getD "", r.columnWidths[column]?.getD 0))]
    · rfl
    · intro column hmem
      rw [hwidth column hmem, List.getElem?_eq_getElem (h column hmem)]
      rfl
  have hrow : ∀ row ∈ r.rows,
      rowLine? r.columnWidths chunk row = some (formatLine (r.rowCells chunk.columns row)) := by
    intro row _
    rw [rowLine?, mapM_eq_some_map (g := fun column => (textAt row column, r.columnWidths[column]?.getD 0))]
    · rfl
    · intro column hmem
      rw [hwidth column hmem]
      rfl
  rw [blockLines?, hheader, mapM_eq_some_map hrow]
  rfl

theorem lt_length_of_mem_plan {width : TerminalWidth} {anchor : Nat} {chunk : Chunk}
    (h : chunk ∈ Chunk.plan r.columnWidths width anchor) : ∀ column ∈ chunk.columns,
      column < r.columns.length := by
  intro column hmem
  rw [← length_columnWidths]
  exact Chunk.lt_of_mem_columns_of_mem_plan h hmem

variable {r} in
/-- The chunk of all columns. -/
theorem columns_all (h : r.hasColumns = true) :
    (⟨none, 0, r.columnWidths.length - 1⟩ : Chunk).columns = List.range r.columns.length := by
  have hpos : 0 < r.columnWidths.length := List.length_pos_iff.mpr (columnWidths_ne_nil h)
  rw [Chunk.columns, Nat.sub_add_cancel hpos, length_columnWidths, List.range_eq_range']
  rfl

theorem nowrapLines?_eq (h : r.hasColumns = true) :
    r.nowrapLines? = some (r.block (List.range r.columns.length)) := by
  rw [nowrapLines?, blockLines?_eq, columns_all h]
  intro column hmem
  rw [columns_all h] at hmem
  exact List.mem_range.mp hmem

theorem wrapLines?_eq (width : TerminalWidth) (anchor : Nat) :
    r.wrapLines? width anchor = some ([""].intercalate
      ((Chunk.plan r.columnWidths width anchor).map fun chunk => r.block chunk.columns)) := by
  have hblock : ∀ chunk ∈ Chunk.plan r.columnWidths width anchor,
      r.blockLines? r.columnWidths chunk = some (r.block chunk.columns) :=
    fun chunk hmem => r.blockLines?_eq (r.lt_length_of_mem_plan hmem)
  rw [wrapLines?, mapM_eq_some_map hblock]
  rfl

theorem lines?_of_ne_nil {r : ResultSet} (h : r.rows ≠ []) (width : TerminalWidth) (anchor : Nat) :
    r.lines? .nowrap width anchor = r.nowrapLines? ∧
      r.lines? .wrap width anchor = r.wrapLines? width anchor := by
  have hempty : r.isEmpty = false := by simpa [isEmpty] using h
  simp [lines?, hempty]

end ResultSet

end TerseQuery
