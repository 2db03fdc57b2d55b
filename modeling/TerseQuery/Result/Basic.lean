import TerseQuery.Json.Printer
import TerseQuery.Text.Width
import TerseQuery.Text.Cut

/-!
# Result sets

Columns and rows of cells. A row may be shorter or longer than the columns: missing cells count as missing
values, and cells beyond the columns are shown only apart by tabs.
-/
namespace TerseQuery

/-- What a missing value is shown as. -/
def nullText : String := "NULL"

/-- The text of a cell: strings as they are, all else as JSON. -/
def cellText : Json → String
  | .null => nullText
  | .text s => s
  | other => other.compact

def Json.isNull : Json → Bool
  | .null => true
  | _ => false

/-- What a statement returned. -/
structure ResultSet where
  columns : List String
  /-- The widths that the engine reports for the columns; missing ones count as zero. -/
  displayWidths : List Nat
  rows : List (List Json)
  rowsAffected : Option Nat

namespace ResultSet

/-- The result of a statement that returns nothing. -/
def empty : ResultSet := ⟨[], [], [], none⟩

instance : Inhabited ResultSet := ⟨empty⟩

/-- The widths of the widest cells, column by column. -/
def cellWidths (columns : List String) (rows : List (List Json)) : List Nat :=
  (List.range columns.length).map fun column =>
    ((rows.filterMap (·[column]?)).map fun cell => Text.displayWidth (cellText cell)).foldl max 0

/-- Columns and rows, with the widths that the cells have. -/
def ofRows (columns : List String) (rows : List (List Json)) : ResultSet :=
  ⟨columns, cellWidths columns rows, rows, none⟩

/-- The result of a statement that changed rows. -/
def affected (rows : Nat) : ResultSet :=
  { empty with rowsAffected := some rows }

def hasColumns (r : ResultSet) : Bool := !r.columns.isEmpty

def isEmpty (r : ResultSet) : Bool := r.rows.isEmpty

/-- Whether a row lacks a column or has the missing value in it. -/
def lacks (row : List Json) (column : Nat) : Bool :=
  row[column]?.all Json.isNull

/-- The width of each column: that of its widest cell or of its header, and enough for missing values. -/
def columnWidths (r : ResultSet) : List Nat :=
  r.columns.zipIdx.map fun (header, column) =>
    let width := max (r.displayWidths[column]?.getD 0) (Text.displayWidth header)
    if r.rows.any fun row => lacks row column then max width nullText.length else width

/-- The place of the first candidate that is a column, in any case; the first column if none is. -/
def anchorOf (columns candidates : List String) : Nat :=
  (candidates.findSome? fun candidate => columns.findIdx? (Text.equalFolded · candidate)).getD 0

end ResultSet

end TerseQuery
