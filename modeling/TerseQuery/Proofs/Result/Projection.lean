import TerseQuery.Proofs.Result.Blocks
import TerseQuery.Proofs.Result.Packing

/-!
# Projections

A chunk shows what the result would show if it had no other columns than those of the chunk.

* `columnWidths_project`: columns keep their widths in a projection;
* `block_project`: a block of some columns shows their projection;
* `wrap_text_eq`: the text of a wrapped result is that of its projections.
-/

namespace TerseQuery

/-- The text that some lines are printed as. -/
def Text.ofLines (lines : List String) : String :=
  String.join (lines.map (· ++ "\n"))

theorem Text.ofLines_append (lines more : List String) :
    ofLines (lines ++ more) = ofLines lines ++ ofLines more := by
  rw [ofLines, List.map_append, String.join_append]
  rfl

/-- Blocks are printed with an empty line between them. -/
theorem Text.ofLines_intercalate (blocks : List (List String)) :
    ofLines ([""].intercalate blocks) = "\n".intercalate (blocks.map ofLines) := by
  induction blocks with
  | nil => rfl
  | cons block rest ih =>
    cases rest with
    | nil => simp
    | cons next rest =>
      have hempty : ofLines [""] = "\n" := by decide
      rw [List.intercalate_cons_cons, ofLines_append, ofLines_append, ih, hempty]
      exact String.intercalate_cons_cons.symm

namespace ResultSet

/-- The text that a result is shown as. -/
def text? (r : ResultSet) (mode : DisplayMode) (width : TerminalWidth) (anchor : Nat) : Option String :=
  (r.lines? mode width anchor).map Text.ofLines

/-- A result with some of its columns, in the order given. Missing cells are missing values there, and missing
widths are zero. -/
def project (r : ResultSet) (columns : List Nat) : ResultSet where
  columns := columns.map fun column => r.columns[column]?.getD ""
  displayWidths := columns.map fun column => r.displayWidths[column]?.getD 0
  rows := r.rows.map fun row => columns.map fun column => row[column]?.getD .null
  rowsAffected := r.rowsAffected

section
variable {r : ResultSet} {columns : List Nat} {place column : Nat}

theorem lacks_map (row : List Json) (h : columns[place]? = some column) :
    lacks (columns.map fun column => row[column]?.getD .null) place = lacks row column := by
  rw [lacks, List.getElem?_map, h, Option.map_some, lacks]
  cases row[column]? <;> rfl

theorem textAt_map (row : List Json) (h : columns[place]? = some column) :
    textAt (columns.map fun column => row[column]?.getD .null) place = textAt row column := by
  rw [textAt, List.getElem?_map, h, Option.map_some, textAt]
  cases row[column]? <;> rfl

theorem columnWidth_project (header : String) (h : columns[place]? = some column) :
    (r.project columns).columnWidth header place = r.columnWidth header column := by
  have hlacks : ((r.project columns).rows.any fun row => lacks row place) =
      r.rows.any fun row => lacks row column := by
    simp only [project, List.any_map, Function.comp_def, lacks_map _ h]
  have hwidth : (r.project columns).displayWidths[place]?.getD 0 = r.displayWidths[column]?.getD 0 := by
    simp [project, h]
  simp only [columnWidth, hlacks, hwidth]

/-- Columns are as wide in a projection as in the result. -/
theorem columnWidths_project (hinside : ∀ column ∈ columns, column < r.columns.length)
    (h : columns[place]? = some column) :
    (r.project columns).columnWidths[place]? = r.columnWidths[column]? := by
  have hcolumn : column < r.columns.length := hinside column (List.mem_of_getElem? h)
  rw [getElem?_columnWidths, getElem?_columnWidths, project, List.getElem?_map, h, Option.map_some,
    List.getElem?_eq_getElem hcolumn, Option.map_some, Option.map_some, Option.getD_some]
  exact congrArg some (columnWidth_project _ h)

/-- The block of all columns of a projection is that of its columns in the result. -/
theorem block_project (hinside : ∀ column ∈ columns, column < r.columns.length) :
    (r.project columns).block (List.range columns.length) = r.block columns := by
  have hheader : (r.project columns).headerCells (List.range columns.length) = r.headerCells columns := by
    apply map_range_length
    intro place column hcolumn
    rw [columnWidths_project hinside hcolumn, project, List.getElem?_map, hcolumn, Option.map_some,
      Option.getD_some]
  have hrow : ∀ row, (r.project columns).rowCells (List.range columns.length)
      (columns.map fun column => row[column]?.getD .null) = r.rowCells columns row := by
    intro row
    apply map_range_length
    intro place column hcolumn
    rw [columnWidths_project hinside hcolumn, textAt_map row hcolumn]
  have hrows : (r.project columns).rows =
      r.rows.map fun row => columns.map fun column => row[column]?.getD .null := rfl
  rw [block, block, hheader, hrows, List.map_map]
  congr 2
  exact List.map_congr_left fun row _ => congrArg formatLine (hrow row)

end

/-! ## Wrapped results -/

section
variable {r : ResultSet} (hrows : r.rows ≠ [])
include hrows

theorem nowrap_text_project {columns : List Nat} (hne : columns ≠ [])
    (hinside : ∀ column ∈ columns, column < r.columns.length) (width : TerminalWidth) (anchor : Nat) :
    (r.project columns).text? .nowrap width anchor = some (Text.ofLines (r.block columns)) := by
  have hlength : (r.project columns).columns.length = columns.length := List.length_map ..
  have hcolumns : (r.project columns).hasColumns = true := by
    simpa [hasColumns, project] using hne
  have hrows' : (r.project columns).rows ≠ [] := by
    simpa [project] using hrows
  rw [text?, (lines?_of_ne_nil hrows' width anchor).1, nowrapLines?_eq _ hcolumns, hlength,
    block_project hinside]
  rfl

theorem wrap_text_block (width : TerminalWidth) (anchor : Nat) :
    r.text? .wrap width anchor = some ("\n".intercalate
      ((Chunk.plan r.columnWidths width anchor).map fun chunk => Text.ofLines (r.block chunk.columns))) := by
  rw [text?, (lines?_of_ne_nil hrows width anchor).2, wrapLines?_eq, Option.map_some,
    Text.ofLines_intercalate, List.map_map, Function.comp_def]

end

/-- A wrapped result is shown as its projections onto the columns of each chunk are shown unwrapped, one after
the other. There is nothing to wrap on a terminal without bounds, where all columns fit side by side, and for
one column. -/
theorem wrap_text_eq (r : ResultSet) (hcolumns : r.hasColumns = true) (hrows : r.rows ≠ [])
    (width : TerminalWidth) (anchor : Nat) :
    (∃ texts, (Chunk.plan r.columnWidths width anchor).mapM (fun chunk =>
          (r.project chunk.columns).text? .nowrap width anchor) = some texts ∧
        r.text? .wrap width anchor = some ("\n".intercalate texts)) ∧
      (width = none ∨ (∃ limit, width = some limit ∧ (r.columnWidths.map (· + 1)).sum ≤ limit) ∨
          r.columns.length = 1 →
        r.text? .wrap width anchor = r.text? .nowrap width anchor) := by
  have hwrap := wrap_text_block hrows width anchor
  constructor
  · refine ⟨_, ?_, hwrap⟩
    apply mapM_eq_some_map
    intro chunk hmem
    exact nowrap_text_project hrows (Chunk.columns_ne_nil_of_mem_plan hmem) (r.lt_length_of_mem_plan hmem) _ _
  · intro h
    have hfits : Chunk.fits width (r.columnWidths.map (· + 1)).sum = true ∨ r.columnWidths.length = 1 := by
      rcases h with rfl | ⟨limit, rfl, hle⟩ | hone
      · exact .inl rfl
      · exact .inl (by simpa [Chunk.fits] using hle)
      · exact .inr (r.length_columnWidths.trans hone)
    have hplan := Chunk.plan_eq_singleton (columnWidths_ne_nil hcolumns) hfits anchor
    rw [hwrap, hplan, text?, (lines?_of_ne_nil hrows width anchor).1, nowrapLines?_eq _ hcolumns,
      List.map_singleton, columns_all hcolumns]
    simp

/-- Rows with a cell too many and a cell too few, and three chunks of which two have the anchor. -/
theorem wrap_text_eq_ragged :
    let rows : List (List Json) :=
      [[.text "1", .text "p", .text "q", .text "r", .text "s", .text "t", .text "u"],
        [.text "22", .null, .text "q", .text "r", .text "s"]]
    let r : ResultSet := ⟨["id", "a", "b", "c", "mail", "x"], [2, 1], rows, none⟩
    let chunks := Chunk.plan r.columnWidths (some 12) 0
    r.hasColumns = true ∧ r.rows ≠ [] ∧ chunks = [⟨none, 0, 3⟩, ⟨some 0, 4, 4⟩, ⟨some 0, 5, 5⟩] ∧
      r.text? .wrap (some 12) 0 = some
        "id a    b c\n\n1  p    q r\n22 NULL q r\n\nid mail\n\n1  s\n22 s\n\nid x\n\n1  t\n22 NULL\n" ∧
      (∃ texts, chunks.mapM (fun chunk => (r.project chunk.columns).text? .nowrap (some 12) 0) = some texts ∧
        r.text? .wrap (some 12) 0 = some ("\n".intercalate texts)) ∧
      (r.columnWidths.map (· + 1)).sum = 22 ∧
      r.text? .wrap (some 22) 0 = r.text? .nowrap (some 22) 0 := by
  intro rows r chunks
  have hcolumns : r.hasColumns = true := by decide +kernel
  have hrows : r.rows ≠ [] := List.cons_ne_nil _ _
  have hsum : (r.columnWidths.map (· + 1)).sum = 22 := by decide +kernel
  have hwrapped := (wrap_text_eq r hcolumns hrows (some 12) 0).1
  have hwhole := (wrap_text_eq r hcolumns hrows (some 22) 0).2 (.inr (.inl ⟨22, rfl, Nat.le_of_eq hsum⟩))
  exact ⟨hcolumns, hrows, by decide +kernel, by decide +kernel, hwrapped, hsum, hwhole⟩

end ResultSet

end TerseQuery
