import TerseQuery.Json.Decoding
import TerseQuery.Query.Json
import TerseQuery.Settings.Basic

/-!
# Settings as JSON

The form in which settings are saved: what is not set is left out, the rest is in a fixed order. When they
are read, fields that are missing have their initial values and other fields are ignored. Each record may
also be the list of its values.
-/
namespace TerseQuery

namespace ConnectionDefinition

/-- The fields of a definition after its type. -/
def partNames : List String := ["engine", "driver", "host", "port", "driver_options"]

def toJson : ConnectionDefinition → Json
  | fullString text => .record [("type", .text "full_string"), ("connection_string", .text text)]
  | fullPath engine path =>
    .record <| ("type", .text "full_path") ::
      (Json.optional "engine" .text engine ++ [("path", .text path)])
  | components parts =>
    .record <| ("type", .text "components") :: ("engine", .text parts.engine) ::
      (Json.optional "driver" .text parts.driver ++ Json.optional "host" .text parts.host ++
        Json.optional "port" (fun port => .integer port.toNat) parts.port ++
        Json.optional "driver_options" .text parts.driverOptions)

/-- A port: a number of 16 bits. -/
def port? (value : Json) : Option UInt16 :=
  value.natural?.bind fun n => if n < UInt16.size then some n.toUInt16 else none

/-- The definition of a type from the record or list of its fields. -/
def ofFields? (type : String) (fields : Json) : Option ConnectionDefinition :=
  match type with
  | "full_string" =>
    match fields.fieldValues? ["connection_string"] with
    | some [text] => (Json.requiredOf? Json.text? text).map fullString
    | _ => none
  | "full_path" =>
    match fields.fieldValues? ["engine", "path"] with
    | some [engine, path] => do
      let engine ← Json.optionalOf? Json.text? engine
      let path ← Json.requiredOf? Json.text? path
      return fullPath engine path
    | _ => none
  | "components" =>
    match fields.fieldValues? partNames with
    | some [engine, driver, host, port, driverOptions] => do
      let engine ← Json.requiredOf? Json.text? engine
      let driver ← Json.optionalOf? Json.text? driver
      let host ← Json.optionalOf? Json.text? host
      let port ← Json.optionalOf? port? port
      let driverOptions ← Json.optionalOf? Json.text? driverOptions
      return components ⟨engine, driver, host, port, driverOptions⟩
    | _ => none
  | _ => none

/-- A definition: a record with its type, or a list that starts with it. -/
def ofJson? : Json → Option ConnectionDefinition
  | .list (.text type :: rest) => ofFields? type (.list rest)
  | .record fields =>
    match findEntry "type" fields with
    | some (.text type) => ofFields? type (.record fields)
    | _ => none
  | _ => none

end ConnectionDefinition

namespace Connection

def fieldNames : List String := ["definition", "user", "password", "password_env"]

def toJson (c : Connection) : Json :=
  .record <| ("definition", c.definition.toJson) ::
    (Json.optional "user" .text c.user ++ Json.optional "password" .text c.password ++
      Json.optional "password_env" .text c.passwordVariable)

def ofJson? (value : Json) : Option Connection :=
  match value.fieldValues? fieldNames with
  | some [definition, user, password, passwordVariable] => do
    let definition ← Json.defaultOf? ConnectionDefinition.ofJson? default definition
    let user ← Json.optionalOf? Json.text? user
    let password ← Json.optionalOf? Json.text? password
    let passwordVariable ← Json.optionalOf? Json.text? passwordVariable
    return ⟨definition, user, password, passwordVariable⟩
  | _ => none

end Connection

namespace Settings

def fieldNames : List String :=
  ["database", "table", "format", "run_mode", "leader", "anchor_columns", "connection", "aliases",
    "abbreviations", "variables"]

def toJson (s : Settings) : Json :=
  .record <|
    Json.optional "database" .text s.database ++ Json.optional "table" .text s.table ++
    [("format", .text s.format.key), ("run_mode", .text s.runMode.name), ("leader", .text s.leader),
      ("anchor_columns", Json.ofDict .text s.anchorColumns), ("connection", s.connection.toJson),
      ("aliases", Json.ofDict .text s.aliases), ("abbreviations", Json.ofDict .text s.abbreviations),
      ("variables", Json.ofDict .text s.userVariables)]

def ofJson? (value : Json) : Option Settings :=
  match value.fieldValues? fieldNames with
  | some [database, table, format, runMode, leader, anchorColumns, connection, aliases, abbreviations,
      userVariables] => do
    let database ← Json.optionalOf? Json.text? database
    let table ← Json.optionalOf? Json.text? table
    let format ← Json.defaultOf? (Json.choiceOf? DisplayMode.ofKey?) initial.format format
    let runMode ← Json.defaultOf? (Json.choiceOf? RunMode.ofName?) initial.runMode runMode
    let leader ← Json.defaultOf? Json.text? initial.leader leader
    let anchorColumns ← Json.defaultOf? (Json.dictOf? Json.text?) initial.anchorColumns anchorColumns
    let connection ← Json.defaultOf? Connection.ofJson? initial.connection connection
    let aliases ← Json.defaultOf? (Json.dictOf? Json.text?) initial.aliases aliases
    let abbreviations ← Json.defaultOf? (Json.dictOf? Json.text?) initial.abbreviations abbreviations
    let userVariables ← Json.defaultOf? (Json.dictOf? Json.text?) initial.userVariables userVariables
    return ⟨database, table, format, runMode, leader, anchorColumns, connection, aliases, abbreviations,
      userVariables⟩
  | _ => none

end Settings

end TerseQuery
