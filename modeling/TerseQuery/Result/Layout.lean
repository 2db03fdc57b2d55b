import TerseQuery.Result.Basic
import TerseQuery.Result.Chunks
import TerseQuery.Text.Blank

/-!
# Laying out a result

The lines that show a result in each display mode. A result without rows shows nothing. A block is made only
of columns that exist; there are no lines where it asks for another.

* `lines?_isSome`: a result with columns can be shown in every mode.
-/
namespace TerseQuery

/-- Cells side by side, each filled up to its width and one space apart, without blanks at the end. -/
def formatLine (cells : List (String × Nat)) : String :=
  let filled := cells.map fun (text, width) =>
    text ++ String.ofList (List.replicate (width - Text.displayWidth text) ' ')
  String.ofList (Text.trimEnd (String.intercalate " " filled).toList)

namespace ResultSet

/-- The text of a cell that may be missing. -/
def textAt (row : List Json) (column : Nat) : String :=
  row[column]?.elim nullText cellText

/-- A line of headers and one line for each row, their cells apart by tabs. Missing values are empty. -/
def tabLines (r : ResultSet) : List String :=
  String.intercalate "\t" r.columns ::
    r.rows.map fun row =>
      String.intercalate "\t" (row.map fun cell => if cell.isNull then "" else cellText cell)

/-- The line of headers of a chunk, if all its columns exist. -/
def headerLine? (r : ResultSet) (widths : List Nat) (chunk : Chunk) : Option String := do
  let cells ← chunk.columns.mapM fun column => do
    let header ← r.columns[column]?
    let width ← widths[column]?
    return (header, width)
  return formatLine cells

/-- The line of a row in a chunk, if all its columns exist. -/
def rowLine? (widths : List Nat) (chunk : Chunk) (row : List Json) : Option String := do
  let cells ← chunk.columns.mapM fun column => do
    let width ← widths[column]?
    return (textAt row column, width)
  return formatLine cells

/-- The lines of a chunk: headers, an empty line, rows. -/
def blockLines? (r : ResultSet) (widths : List Nat) (chunk : Chunk) : Option (List String) := do
  let header ← r.headerLine? widths chunk
  let rows ← r.rows.mapM (rowLine? widths chunk)
  return header :: "" :: rows

/-- All columns in one block. -/
def nowrapLines? (r : ResultSet) : Option (List String) :=
  let widths := r.columnWidths
  r.blockLines? widths ⟨none, 0, widths.length - 1⟩

/-- Blocks that fit the terminal, an empty line between them. -/
def wrapLines? (r : ResultSet) (width : TerminalWidth) (anchor : Nat) : Option (List String) := do
  let widths := r.columnWidths
  let blocks ← (Chunk.plan widths width anchor).mapM (r.blockLines? widths)
  return [""].intercalate blocks

/-- The least number of stars on each side of a banner's text. -/
def bannerStars : Nat := 3

/-- The line over a record: its number between stars, as wide as the record. -/
def banner (number recordWidth : Nat) : String :=
  let label := s!" {number}. row "
  let total := max recordWidth (label.length + 2 * bannerStars)
  let left := (total - label.length) / 2
  let right := total - label.length - left
  String.ofList (List.replicate left '*') ++ label ++ String.ofList (List.replicate right '*')

/-- For each row a banner and one line for each column, the headers aligned at their ends. -/
def verticalLines (r : ResultSet) : List String :=
  let headerWidth := (r.columns.map Text.displayWidth).foldl max 0
  let valueWidth := r.columnWidths.foldl max 0
  r.rows.zipIdx.flatMap fun (row, place) =>
    banner (place + 1) (headerWidth + 2 + valueWidth) ::
      r.columns.zipIdx.map fun (header, column) =>
        String.ofList (List.replicate (headerWidth - Text.displayWidth header) ' ') ++ header ++ ": " ++
          textAt row column

/-- The lines that show a result. -/
def lines? (r : ResultSet) (mode : DisplayMode) (width : TerminalWidth) (anchor : Nat) :
    Option (List String) :=
  if r.isEmpty then some []
  else
    match mode with
    | .tab => some r.tabLines
    | .nowrap => r.nowrapLines?
    | .wrap => r.wrapLines? width anchor
    | .vertical => some r.verticalLines

/-! ## Results with columns -/

theorem length_columnWidths (r : ResultSet) : r.columnWidths.length = r.columns.length := by
  simp [columnWidths]

theorem isSome_mapM {α β : Type} {f : α → Option β} {items : List α}
    (h : ∀ item ∈ items, (f item).isSome) : (items.mapM f).isSome := by
  induction items with
  | nil => rfl
  | cons item rest ih =>
    obtain ⟨b, here⟩ := Option.isSome_iff_exists.1 (h item (by simp))
    obtain ⟨bs, later⟩ :=
      Option.isSome_iff_exists.1 (ih fun other member => h other (List.mem_cons_of_mem _ member))
    simp [here, later]

theorem headerLine?_isSome (r : ResultSet) {chunk : Chunk}
    (h : ∀ column ∈ chunk.columns, column < r.columnWidths.length) :
    (r.headerLine? r.columnWidths chunk).isSome := by
  simp only [headerLine?, Option.pure_def, Option.bind_eq_bind, Option.isSome_bind]
  refine isSome_mapM fun column member => ?_
  have inside := h column member
  rw [List.getElem?_eq_getElem inside, List.getElem?_eq_getElem (r.length_columnWidths ▸ inside)]
  rfl

theorem rowLine?_isSome {widths : List Nat} {chunk : Chunk}
    (h : ∀ column ∈ chunk.columns, column < widths.length) (row : List Json) :
    (rowLine? widths chunk row).isSome := by
  simp only [rowLine?, Option.pure_def, Option.bind_eq_bind, Option.isSome_bind]
  refine isSome_mapM fun column member => ?_
  rw [List.getElem?_eq_getElem (h column member)]
  rfl

/-- A block of columns that exist can be shown. -/
theorem blockLines?_isSome (r : ResultSet) {chunk : Chunk}
    (h : ∀ column ∈ chunk.columns, column < r.columnWidths.length) :
    (r.blockLines? r.columnWidths chunk).isSome := by
  obtain ⟨header, shown⟩ := Option.isSome_iff_exists.1 (r.headerLine?_isSome h)
  obtain ⟨rows, shown'⟩ :=
    Option.isSome_iff_exists.1 (isSome_mapM fun row (_ : row ∈ r.rows) => rowLine?_isSome h row)
  simp [blockLines?, shown, shown']

theorem wrapLines?_isSome (r : ResultSet) (width : TerminalWidth) (anchor : Nat) :
    (r.wrapLines? width anchor).isSome := by
  simp only [wrapLines?, Option.pure_def, Option.bind_eq_bind, Option.isSome_bind]
  exact isSome_mapM fun chunk planned => r.blockLines?_isSome fun column member =>
    Chunk.lt_of_mem_columns_of_mem_plan planned member

theorem nowrapLines?_isSome (r : ResultSet) (h : r.hasColumns = true) : r.nowrapLines?.isSome := by
  have : 0 < r.columnWidths.length := by
    rw [length_columnWidths]
    exact List.length_pos_iff.2 (by simpa [hasColumns] using h)
  refine r.blockLines?_isSome fun column member => ?_
  have : column < r.columnWidths.length - 1 + 1 := by simpa [Chunk.columns] using member
  omega

theorem lines?_isSome (r : ResultSet) (h : r.hasColumns = true) (mode : DisplayMode)
    (width : TerminalWidth) (anchor : Nat) : (r.lines? mode width anchor).isSome := by
  unfold lines?
  split
  · rfl
  · cases mode with
    | tab => rfl
    | vertical => rfl
    | nowrap => exact r.nowrapLines?_isSome h
    | wrap => exact r.wrapLines?_isSome width anchor

/-- The lines that show a result with columns. -/
def lines (r : ResultSet) (h : r.hasColumns = true) (mode : DisplayMode) (width : TerminalWidth)
    (anchor : Nat) : List String :=
  (r.lines? mode width anchor).get (r.lines?_isSome h mode width anchor)

end ResultSet

end TerseQuery
