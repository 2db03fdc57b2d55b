import TerseQuery.Proofs.Result.Fit

/-!
# Columns that line up

Cells filled up to the widths of their columns start where these widths put them, so a column starts at the
same place in all lines of a block.

* `exists_filled_cells_split`: where a cell starts among filled cells;
* `Aligned`: a line whose columns start where their widths put them;
* `blockLines?_aligned`: the lines of a block of a result made of rows.
-/

namespace TerseQuery

theorem exists_filled_cells_cons (cell : String × Nat) (after : List (String × Nat)) :
    ∃ right, " ".intercalate ((cell :: after).map filled) = cell.1 ++ right := by
  cases after with
  | nil => exact ⟨_, rfl⟩
  | cons next rest =>
    rw [filled_cells_cons, filled, String.append_assoc, String.append_assoc]
    exact ⟨_, rfl⟩

/-- What is before a cell in a line takes the widths of the cells before it, and one space for each. -/
theorem exists_filled_cells_split {before : List (String × Nat)} (h : ∀ cell ∈ before, CellFits cell)
    (cell : String × Nat) (after : List (String × Nat)) :
    ∃ left right, " ".intercalate ((before ++ cell :: after).map filled) = left ++ cell.1 ++ right ∧
      Text.IsPlain left ∧ Text.displayWidth left = (before.map (·.2 + 1)).sum := by
  induction before with
  | nil =>
    obtain ⟨right, hright⟩ := exists_filled_cells_cons cell after
    exact ⟨"", right, by rw [List.nil_append, hright, String.empty_append], by decide, rfl⟩
  | cons first before ih =>
    obtain ⟨hfirst, hrest⟩ := List.forall_mem_cons.mp h
    obtain ⟨left, right, hcells, hplain, hwidth⟩ := ih hrest
    obtain ⟨next, others, hnext⟩ : ∃ next others, before ++ cell :: after = next :: others :=
      List.exists_cons_of_ne_nil (List.append_ne_nil_of_right_ne_nil _ (List.cons_ne_nil _ _))
    have hspace : Text.IsPlain " " := by decide
    have hone : Text.displayWidth " " = 1 := by decide
    have hstart : Text.IsPlain (filled first ++ " ") := Text.isPlain_append.mpr ⟨hfirst.isPlain_filled, hspace⟩
    refine ⟨filled first ++ " " ++ left, right, ?_, Text.isPlain_append.mpr ⟨hstart, hplain⟩, ?_⟩
    · rw [List.cons_append, hnext, filled_cells_cons, ← hnext, hcells]
      simp only [String.append_assoc]
    · rw [Text.displayWidth_append hstart hplain, Text.displayWidth_append hfirst.isPlain_filled hspace,
        hfirst.displayWidth_filled, hone, hwidth, List.map_cons, List.sum_cons]

theorem exists_formatLine_append (cells : List (String × Nat)) :
    ∃ blanks : String, formatLine cells ++ blanks = " ".intercalate (cells.map filled) ∧
      ∀ c ∈ blanks.toList, Text.isBlank c = true := by
  obtain ⟨blanks, htrim, hblank⟩ := Text.trimEnd_append (" ".intercalate (cells.map filled)).toList
  refine ⟨String.ofList blanks, ?_, by rwa [String.toList_ofList]⟩
  rw [formatLine_eq, ← String.toList_inj, String.toList_append, String.toList_ofList, String.toList_ofList,
    ← htrim]

namespace ResultSet

/-- In a line, up to blanks that are missing at its end, the text of each column starts behind the widths of
the columns before it and one space for each of them. -/
def Aligned (widths shown : List Nat) (text : Nat → String) (line : String) : Prop :=
  ∃ blanks : String, (∀ c ∈ blanks.toList, Text.isBlank c = true) ∧
    ∀ before column after, shown = before ++ column :: after →
      ∃ left right, line ++ blanks = left ++ text column ++ right ∧
        Text.displayWidth left = Chunk.span widths before

/-- The text of a column with the width of the column. -/
def columnCell (widths : List Nat) (text : Nat → String) (column : Nat) : String × Nat :=
  (text column, widths[column]?.getD 0)

theorem aligned_formatLine {widths shown : List Nat} {text : Nat → String}
    (h : ∀ column ∈ shown, CellFits (columnCell widths text column)) :
    Aligned widths shown text (formatLine (shown.map (columnCell widths text))) := by
  obtain ⟨blanks, hline, hblank⟩ := exists_formatLine_append (shown.map (columnCell widths text))
  refine ⟨blanks, hblank, ?_⟩
  rintro before column after rfl
  have hbefore : ∀ cell ∈ before.map (columnCell widths text), CellFits cell :=
    List.forall_mem_map.mpr fun other hother => h other (List.mem_append_left _ hother)
  obtain ⟨left, right, hsplit, -, hwidth⟩ :=
    exists_filled_cells_split hbefore (columnCell widths text column) (after.map (columnCell widths text))
  refine ⟨left, right, ?_, ?_⟩
  · rw [hline, List.map_append, List.map_cons, hsplit]
    rfl
  · rw [hwidth, List.map_map]
    rfl

/-- In each line of a block of a result made of rows, the header's line as well as the rows', each column
starts behind the widths of the columns before it. -/
theorem blockLines?_aligned {columns : List String} {rows : List (List Json)}
    (hheaders : ∀ header ∈ columns, Text.IsPlain header)
    (hcells : ∀ row ∈ rows, ∀ cell ∈ row, Text.IsPlain (cellText cell)) {chunk : Chunk}
    (hchunk : ∀ column ∈ chunk.columns, column < columns.length) :
    let r := ofRows columns rows
    ∃ header lines, r.blockLines? r.columnWidths chunk = some (header :: "" :: lines) ∧
      Aligned r.columnWidths chunk.columns (fun column => columns[column]?.getD "") header ∧
      List.Forall₂ (fun row => Aligned r.columnWidths chunk.columns (textAt row)) rows lines := by
  intro r
  refine ⟨_, _, r.blockLines?_eq hchunk, aligned_formatLine fun column hmem => ?_, ?_⟩
  · exact ⟨header_of_forall hheaders (hchunk column hmem), r.displayWidth_header_le (hchunk column hmem)⟩
  · refine List.forall₂_map_right_iff.mpr (List.forall₂_same.mpr fun row hrow => ?_)
    refine aligned_formatLine fun column hmem => ⟨?_, ?_⟩
    · exact textAt_of_forall (by decide) (hcells row hrow) column
    · exact displayWidth_textAt_le columns rows hrow (hchunk column hmem)

/-- A wide anchor column, a combining character and a missing cell. -/
theorem blockLines?_aligned_wide :
    let columns := ["id", "名前", "a", "city"]
    let first : List Json := [.text "1", .text "東京", .text "p", .text "Rom"]
    let second : List Json := [.text "22", .text "e\u0301", .text "r"]
    let r := ofRows columns [first, second]
    let chunk : Chunk := ⟨some 1, 2, 3⟩
    r.columnWidths = [2, 4, 1, 4] ∧ chunk.columns = [1, 2, 3] ∧
      r.blockLines? r.columnWidths chunk =
        some ["名前 a city", "", "東京 p Rom", "e\u0301    r NULL"] ∧
      Aligned r.columnWidths chunk.columns (fun column => columns[column]?.getD "") "名前 a city" ∧
      Aligned r.columnWidths chunk.columns (textAt first) "東京 p Rom" ∧
      Aligned r.columnWidths chunk.columns (textAt second) "e\u0301    r NULL" := by
  intro columns first second r chunk
  have hheaders : ∀ header ∈ columns, Text.IsPlain header := by decide +kernel
  have hcells : ∀ row ∈ [first, second], ∀ cell ∈ row, Text.IsPlain (cellText cell) := by decide +kernel
  have hchunk : ∀ column ∈ chunk.columns, column < columns.length := by decide +kernel
  have hlines : r.blockLines? r.columnWidths chunk =
      some ["名前 a city", "", "東京 p Rom", "e\u0301    r NULL"] := by decide +kernel
  obtain ⟨header, lines, hblock, hheader, hrows⟩ := blockLines?_aligned hheaders hcells hchunk
  rw [hlines] at hblock
  cases hblock
  obtain ⟨hfirst, hsecond⟩ := List.forall₂_cons.mp hrows
  exact ⟨by decide +kernel, by decide +kernel, hlines, hheader, hfirst, (List.forall₂_cons.mp hsecond).1⟩

end ResultSet

end TerseQuery
