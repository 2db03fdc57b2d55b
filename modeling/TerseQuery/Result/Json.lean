import TerseQuery.Json.Decoding
import TerseQuery.Result.Basic

/-!
# Result sets as JSON

A result set is a record with three lists and, if rows were changed, their number. It may also be read
from a list of these four values.
-/
namespace TerseQuery.ResultSet

/-- A result set from its four values. -/
def ofValues? (columns widths rows affected : Option Json) : Option ResultSet := do
  let columns ← Json.requiredOf? (Json.listOf? Json.text?) columns
  let widths ← Json.requiredOf? (Json.listOf? Json.natural?) widths
  let rows ← Json.requiredOf? (Json.listOf? (Json.listOf? some)) rows
  let affected ← Json.optionalOf? Json.natural? affected
  return ⟨columns, widths, rows, affected⟩

def ofJson? : Json → Option ResultSet
  | .record fields =>
    ofValues? (findEntry "columns" fields) (findEntry "display_widths" fields) (findEntry "rows" fields)
      (findEntry "rows_affected" fields)
  | .list [columns, widths, rows, affected] =>
    ofValues? (some columns) (some widths) (some rows) (some affected)
  | _ => none

def toJson (r : ResultSet) : Json :=
  .record <|
    [("columns", .list (r.columns.map .text)),
      ("display_widths", .list (r.displayWidths.map fun (width : Nat) => .integer width)),
      ("rows", .list (r.rows.map .list))] ++
    match r.rowsAffected with
    | some rows => [("rows_affected", .integer rows)]
    | none => []

end TerseQuery.ResultSet
