import TerseQuery.Json.Basic
import TerseQuery.Query.Basic

/-!
# Sorted lines as JSON

The form in which a sorted line is shown: what a line lacks is left out, options and buckets are in order of
names.
-/
namespace TerseQuery

/-- A field that is left out when it has no value. -/
def Json.optional {α : Type} (name : String) (encode : α → Json) : Option α → List (String × Json)
  | some value => [(name, encode value)]
  | none => []

def OptionValue.toJson : OptionValue → Json
  | .flag => .text "flag"
  | .text value => .record [("text", .text value)]

def OptionMap.toJson (map : OptionMap) : Json :=
  Json.ofDict OptionValue.toJson map

def OperatorUse.toJson (op : OperatorUse) : Json :=
  .record [("symbol", .text op.symbol), ("bucket", .text op.sigil), ("index", .integer op.index)]

/-- A sorted line, its fields in the order in which they are shown. -/
def Query.toJson (q : Query) : Json :=
  .record <|
    Json.optional "command_name" .text q.command ++
    [("is_explicit_command", .bool q.isExplicit), ("is_query_command", .bool q.isQueryLine)] ++
    Json.optional "main_table_name" (fun table => .text table.name) q.table ++
    [("options", q.options.toJson),
      ("argument_buckets", Json.ofDict (fun words => .list (words.map .text)) q.buckets)] ++
    (if q.operators.isEmpty then [] else [("operators", .list (q.operators.map OperatorUse.toJson))]) ++
    Json.optional "literal_sql" .text q.literal ++
    Json.optional "kind" (fun kind => .text kind.name) q.kind

end TerseQuery
