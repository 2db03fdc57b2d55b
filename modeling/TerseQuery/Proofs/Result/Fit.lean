import TerseQuery.Proofs.Result.Blocks
import TerseQuery.Proofs.Result.Packing
import TerseQuery.Proofs.Text.Width

/-!
# Lines that fit

Cells filled up to the widths of their columns stay within these widths, and so chunks that fit the terminal
are printed as lines that do.

* `displayWidth_formatLine_lt`: a line is no wider than its columns and the spaces between them;
* `displayWidth_textAt_le`: the columns of a result are as wide as the cells it was made of;
* `wrap_fits`: the lines of a wrapped result.
-/

namespace TerseQuery

/-! ## Lines of cells -/

/-- A text that stays within the width of its column, as far as a terminal shows it. -/
structure CellFits (cell : String × Nat) : Prop where
  plain : Text.IsPlain cell.1
  within : Text.displayWidth cell.1 ≤ cell.2

/-- A text filled up to a width. -/
def filled (cell : String × Nat) : String :=
  cell.1 ++ String.ofList (List.replicate (cell.2 - Text.displayWidth cell.1) ' ')

theorem formatLine_eq (cells : List (String × Nat)) :
    formatLine cells = String.ofList (Text.trimEnd (" ".intercalate (cells.map filled)).toList) := rfl

theorem CellFits.isPlain_filled {cell : String × Nat} (h : CellFits cell) : Text.IsPlain (filled cell) :=
  Text.isPlain_append.mpr ⟨h.plain, Text.isPlain_spaces _⟩

theorem CellFits.displayWidth_filled {cell : String × Nat} (h : CellFits cell) :
    Text.displayWidth (filled cell) = cell.2 := by
  rw [filled, Text.displayWidth_append h.plain (Text.isPlain_spaces _), Text.displayWidth_spaces]
  exact Nat.add_sub_of_le h.within

theorem filled_cells_cons (cell next : String × Nat) (rest : List (String × Nat)) :
    " ".intercalate ((cell :: next :: rest).map filled) =
      filled cell ++ " " ++ " ".intercalate ((next :: rest).map filled) :=
  String.intercalate_cons_cons

/-- Cells side by side take their widths, and one space each but for the last. -/
theorem displayWidth_filled_cells {cells : List (String × Nat)} (hne : cells ≠ [])
    (h : ∀ cell ∈ cells, CellFits cell) :
    Text.IsPlain (" ".intercalate (cells.map filled)) ∧
      Text.displayWidth (" ".intercalate (cells.map filled)) + 1 = (cells.map (·.2 + 1)).sum := by
  induction cells with
  | nil => exact absurd rfl hne
  | cons cell rest ih =>
    have hcell := h cell List.mem_cons_self
    have hplain := hcell.isPlain_filled
    have hwidth := hcell.displayWidth_filled
    cases rest with
    | nil => simpa [hwidth] using hplain
    | cons next rest =>
      have hspace : Text.IsPlain " " := by decide
      have hone : Text.displayWidth " " = 1 := by decide
      obtain ⟨hplain', hwidth'⟩ :=
        ih (List.cons_ne_nil _ _) fun other hother => h other (List.mem_cons_of_mem _ hother)
      have hstart := Text.isPlain_append.mpr ⟨hplain, hspace⟩
      rw [filled_cells_cons]
      refine ⟨Text.isPlain_append.mpr ⟨hstart, hplain'⟩, ?_⟩
      have hsum : ((cell :: next :: rest).map (·.2 + 1)).sum =
          cell.2 + 1 + ((next :: rest).map (·.2 + 1)).sum := List.sum_cons
      rw [hsum, ← hwidth', Text.displayWidth_append hstart hplain', Text.displayWidth_append hplain hspace,
        hwidth, hone]
      omega

theorem displayWidth_formatLine_lt {cells : List (String × Nat)} (hne : cells ≠ [])
    (h : ∀ cell ∈ cells, CellFits cell) :
    Text.displayWidth (formatLine cells) < (cells.map (·.2 + 1)).sum := by
  obtain ⟨hplain, hwidth⟩ := displayWidth_filled_cells hne h
  have htrimmed := Text.displayWidth_trimEnd_le hplain
  rw [formatLine_eq]
  omega

theorem mem_formatLine {cells : List (String × Nat)} {c : Char} (h : c ∈ (formatLine cells).toList) :
    c = ' ' ∨ ∃ cell ∈ cells, c ∈ cell.1.toList := by
  rw [formatLine_eq, String.toList_ofList] at h
  replace h := Text.mem_of_mem_trimEnd h
  induction cells with
  | nil => cases h
  | cons cell rest ih =>
    have hcell : c ∈ (filled cell).toList → c = ' ' ∨ ∃ other ∈ cell :: rest, c ∈ other.1.toList := by
      intro hmem
      rw [filled, String.toList_append, String.toList_ofList] at hmem
      rcases List.mem_append.mp hmem with htext | hspace
      · exact .inr ⟨cell, List.mem_cons_self, htext⟩
      · exact .inl (List.eq_of_mem_replicate hspace)
    cases rest with
    | nil => exact hcell (by simpa using h)
    | cons next rest =>
      rw [filled_cells_cons, String.toList_append, String.toList_append, List.mem_append, List.mem_append] at h
      rcases h with (hhere | hspace) | hlater
      · exact hcell hhere
      · exact .inl (List.mem_singleton.mp hspace)
      · rcases ih hlater with hspace | ⟨other, hother, hmem⟩
        · exact .inl hspace
        · exact .inr ⟨other, List.mem_cons_of_mem _ hother, hmem⟩

namespace ResultSet

/-! ## What is shown in a column -/

theorem header_of_forall {P : String → Prop} {columns : List String} (h : ∀ header ∈ columns, P header)
    {column : Nat} (hinside : column < columns.length) : P (columns[column]?.getD "") := by
  rw [List.getElem?_eq_getElem hinside, Option.getD_some]
  exact h _ (List.getElem_mem hinside)

theorem textAt_of_forall {P : String → Prop} (hnull : P nullText) {row : List Json}
    (h : ∀ cell ∈ row, P (cellText cell)) (column : Nat) : P (textAt row column) := by
  cases hcell : row[column]? with
  | some cell =>
    rw [textAt, hcell]
    exact h cell (List.mem_of_getElem? hcell)
  | none =>
    rw [textAt, hcell]
    exact hnull

/-! ## Widths of columns -/

theorem getD_columnWidths (r : ResultSet) {column : Nat} (h : column < r.columns.length) :
    r.columnWidths[column]?.getD 0 = r.columnWidth r.columns[column] column := by
  rw [getElem?_columnWidths, List.getElem?_eq_getElem h]
  rfl

theorem displayWidth_header_le (r : ResultSet) {column : Nat} (h : column < r.columns.length) :
    Text.displayWidth (r.columns[column]?.getD "") ≤ r.columnWidths[column]?.getD 0 := by
  rw [getD_columnWidths r h, List.getElem?_eq_getElem h, Option.getD_some]
  exact (r.le_columnWidth _ column).2.1

section
variable (columns : List String) (rows : List (List Json)) {row : List Json} (hrow : row ∈ rows)
  {column : Nat} (h : column < columns.length)
include hrow h

theorem displayWidth_cellText_le {cell : Json} (hcell : row[column]? = some cell) :
    Text.displayWidth (cellText cell) ≤ (ofRows columns rows).displayWidths[column]?.getD 0 := by
  have hmem : Text.displayWidth (cellText cell) ∈
      (rows.filterMap (·[column]?)).map fun cell => Text.displayWidth (cellText cell) :=
    List.mem_map_of_mem (List.mem_filterMap.mpr ⟨row, hrow, hcell⟩)
  rw [ofRows, cellWidths, List.getElem?_map, List.getElem?_range h, Option.map_some, Option.getD_some,
    List.foldl_max]
  exact Nat.le_trans (List.le_max?_getD_of_mem hmem) (Nat.le_max_right _ _)

/-- Columns are as wide as what is shown in them. -/
theorem displayWidth_textAt_le :
    Text.displayWidth (textAt row column) ≤ (ofRows columns rows).columnWidths[column]?.getD 0 := by
  obtain ⟨hreported, -, hnull⟩ := (ofRows columns rows).le_columnWidth columns[column] column
  rw [getD_columnWidths (ofRows columns rows) h]
  cases hcell : row[column]? with
  | some cell =>
    rw [textAt, hcell]
    exact Nat.le_trans (displayWidth_cellText_le columns rows hrow h hcell) hreported
  | none =>
    have hlacks : lacks row column = true := by
      rw [lacks, hcell]
      rfl
    have hwidth : Text.displayWidth nullText = nullText.length := by decide
    rw [textAt, hcell, Option.elim_none, hwidth]
    exact hnull row hrow hlacks

end

/-! ## Wrapped results -/

/-- A text without escape characters on one line. -/
structure OneLine (s : String) : Prop where
  plain : Text.IsPlain s
  unbroken : '\n' ∉ s.toList

instance {s : String} : Decidable (OneLine s) :=
  decidable_of_iff (Text.IsPlain s ∧ '\n' ∉ s.toList)
    ⟨fun h => ⟨h.1, h.2⟩, fun h => ⟨h.plain, h.unbroken⟩⟩

theorem oneLine_textAt {row : List Json} (h : ∀ cell ∈ row, OneLine (cellText cell)) (column : Nat) :
    OneLine (textAt row column) :=
  textAt_of_forall (by decide) h column

theorem unbroken_formatLine {cells : List (String × Nat)} (h : ∀ cell ∈ cells, OneLine cell.1) :
    '\n' ∉ (formatLine cells).toList := by
  intro hmem
  rcases mem_formatLine hmem with hspace | ⟨cell, hcell, hbreak⟩
  · exact absurd hspace (by decide)
  · exact (h cell hcell).unbroken hbreak

/-- A line printed for some columns ends left of a limit, or within the width of the only column. -/
def LineFits (limit : Nat) (widths columns : List Nat) (line : String) : Prop :=
  match columns with
  | [column] => Text.displayWidth line ≤ widths[column]?.getD 0
  | _ => Text.displayWidth line < limit

/-- A line of cells ends left of what their columns take. -/
theorem displayWidth_formatLine_lt_span {cells : List (String × Nat)} {widths shown : List Nat}
    (hne : shown ≠ []) (hcells : ∀ cell ∈ cells, CellFits cell)
    (hwidths : cells.map Prod.snd = shown.map fun column => widths[column]?.getD 0) :
    Text.displayWidth (formatLine cells) < Chunk.span widths shown := by
  have hcells_ne : cells ≠ [] := by
    rintro rfl
    exact hne (by simpa using hwidths.symm)
  have hsum : (cells.map (·.2 + 1)).sum = Chunk.span widths shown := by
    have hmap := congrArg (List.map (· + 1)) hwidths
    rw [List.map_map, List.map_map] at hmap
    exact congrArg List.sum hmap
  rw [← hsum]
  exact displayWidth_formatLine_lt hcells_ne hcells

theorem lineFits_of_lt {limit anchor : Nat} {widths : List Nat} {line : String} {chunk : Chunk}
    (hchunk : chunk ∈ Chunk.plan widths (some limit) anchor)
    (h : Text.displayWidth line < Chunk.span widths chunk.columns) :
    LineFits limit widths chunk.columns line := by
  unfold LineFits
  split
  · rename_i column hone
    rw [hone, Chunk.span_cons] at h
    exact Nat.le_of_lt_succ h
  · rename_i hmany
    rcases Chunk.fits_span_of_mem_plan hchunk with hfits | hone
    · exact Nat.lt_of_lt_of_le h (of_decide_eq_true hfits)
    · exact absurd hone (hmany _)

section
variable {columns : List String} {rows : List (List Json)}
variable (hheaders : ∀ header ∈ columns, OneLine header)
variable (hcells : ∀ row ∈ rows, ∀ cell ∈ row, OneLine (cellText cell))
variable {shown : List Nat} (hshown : ∀ column ∈ shown, column < columns.length)

include hheaders hshown in
theorem oneLine_headerCells : ∀ cell ∈ (ofRows columns rows).headerCells shown,
    OneLine cell.1 ∧ CellFits cell := by
  intro cell hcell
  obtain ⟨column, hmem, rfl⟩ := List.mem_map.mp hcell
  have hinside : column < columns.length := hshown column hmem
  have hheader : OneLine ((ofRows columns rows).columns[column]?.getD "") := header_of_forall hheaders hinside
  exact ⟨hheader, hheader.plain, (ofRows columns rows).displayWidth_header_le hinside⟩

include hcells hshown in
theorem oneLine_rowCells {row : List Json} (hrow : row ∈ rows) :
    ∀ cell ∈ (ofRows columns rows).rowCells shown row, OneLine cell.1 ∧ CellFits cell := by
  intro cell hcell
  obtain ⟨column, hmem, rfl⟩ := List.mem_map.mp hcell
  have htext := oneLine_textAt (hcells row hrow) column
  exact ⟨htext, htext.plain, displayWidth_textAt_le columns rows hrow (hshown column hmem)⟩

include hheaders hcells hshown in
/-- The lines of a block end left of what its columns take. -/
theorem displayWidth_block_lt (hne : shown ≠ []) : ∀ line ∈ "" :: (ofRows columns rows).block shown,
    '\n' ∉ line.toList ∧
      Text.displayWidth line < Chunk.span (ofRows columns rows).columnWidths shown := by
  have hempty : Text.displayWidth "" < Chunk.span (ofRows columns rows).columnWidths shown :=
    Chunk.span_pos _ hne
  have hline : ∀ cells : List (String × Nat), (∀ cell ∈ cells, OneLine cell.1 ∧ CellFits cell) →
      cells.map Prod.snd = shown.map (fun column => (ofRows columns rows).columnWidths[column]?.getD 0) →
      '\n' ∉ (formatLine cells).toList ∧
        Text.displayWidth (formatLine cells) < Chunk.span (ofRows columns rows).columnWidths shown :=
    fun cells hcell hwidths =>
      ⟨unbroken_formatLine fun cell hmem => (hcell cell hmem).1,
        displayWidth_formatLine_lt_span hne (fun cell hmem => (hcell cell hmem).2) hwidths⟩
  intro line hmem
  rw [block, List.mem_cons, List.mem_cons, List.mem_cons, List.mem_map] at hmem
  rcases hmem with rfl | rfl | rfl | ⟨row, hrow, rfl⟩
  · exact ⟨List.not_mem_nil, hempty⟩
  · exact hline _ (oneLine_headerCells hheaders hshown) (List.map_map ..)
  · exact ⟨List.not_mem_nil, hempty⟩
  · exact hline _ (oneLine_rowCells hcells hshown hrow) (List.map_map ..)

end

/-- A result made of rows, wrapped: its lines are those of blocks with an empty line between them. Each line,
the empty line before a block as one of the block's, ends left of the terminal's limit, unless the block has
one column and the line is within the width of that. -/
theorem wrap_fits (columns : List String) (rows : List (List Json)) (limit anchor : Nat)
    (hheaders : ∀ header ∈ columns, OneLine header)
    (hcells : ∀ row ∈ rows, ∀ cell ∈ row, OneLine (cellText cell)) :
    let r := ofRows columns rows
    let chunks := Chunk.plan r.columnWidths (some limit) anchor
    r.lines? .wrap (some limit) anchor = some (if rows = [] then []
        else [""].intercalate (chunks.map fun chunk => r.block chunk.columns)) ∧
      ∀ chunk ∈ chunks, r.blockLines? r.columnWidths chunk = some (r.block chunk.columns) ∧
        ∀ line ∈ "" :: r.block chunk.columns,
          '\n' ∉ line.toList ∧ LineFits limit r.columnWidths chunk.columns line := by
  intro r chunks
  constructor
  · by_cases hrows : rows = []
    · subst hrows
      rfl
    · rw [if_neg hrows, (lines?_of_ne_nil hrows (some limit) anchor).2]
      exact r.wrapLines?_eq (some limit) anchor
  · intro chunk hchunk
    have hinside := r.lt_length_of_mem_plan hchunk
    refine ⟨r.blockLines?_eq hinside, fun line hline => ?_⟩
    obtain ⟨hbreak, hwidth⟩ := displayWidth_block_lt hheaders hcells hinside
      (Chunk.columns_ne_nil_of_mem_plan hchunk) line hline
    exact ⟨hbreak, lineFits_of_lt hchunk hwidth⟩

/-- Wide and combining characters, missing cells, a chunk with the anchor, and a column that is wider than the
terminal. -/
theorem wrap_fits_wide :
    let columns := ["id", "名前", "a", "b", "city", "mail"]
    let rows : List (List Json) :=
      [[.text "1", .text "東京", .text "p", .text "q", .text "Rom", .text "post@example.org", .bool true],
        [.text "22", .text "e\u0301", .text "r", .text "s"]]
    let r := ofRows columns rows
    let chunks := Chunk.plan r.columnWidths (some 12) 0
    (∀ header ∈ columns, OneLine header) ∧ (∀ row ∈ rows, ∀ cell ∈ row, OneLine (cellText cell)) ∧
      r.columnWidths = [2, 4, 1, 1, 4, 16] ∧
      chunks = [⟨none, 0, 3⟩, ⟨some 0, 4, 4⟩, ⟨none, 5, 5⟩] ∧
      r.lines? .wrap (some 12) 0 = some
        ["id 名前 a b", "", "1  東京 p q", "22 e\u0301    r s", "",
          "id city", "", "1  Rom", "22 NULL", "",
          "mail", "", "post@example.org", "NULL"] ∧
      ∀ chunk ∈ chunks, r.blockLines? r.columnWidths chunk = some (r.block chunk.columns) ∧
        ∀ line ∈ "" :: r.block chunk.columns,
          '\n' ∉ line.toList ∧ LineFits 12 r.columnWidths chunk.columns line := by
  intro columns rows r chunks
  have hheaders : ∀ header ∈ columns, OneLine header := by decide +kernel
  have hcells : ∀ row ∈ rows, ∀ cell ∈ row, OneLine (cellText cell) := by decide +kernel
  have h := wrap_fits columns rows 12 0 hheaders hcells
  exact ⟨hheaders, hcells, by decide +kernel, by decide +kernel, by decide +kernel, h.2⟩

end ResultSet

end TerseQuery
