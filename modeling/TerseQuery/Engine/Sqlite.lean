import TerseQuery.Decimal.Binary64
import TerseQuery.Engine.Basic
import TerseQuery.Text.Base64
import TerseQuery.Text.Utf8

/-!
# SQLite

The engine for SQLite files. It opens the file that the settings name for each statement, and never makes
one. Stored values become cells: doubles that are not finite are missing values, bytes are shown in
Base64, and text has to be UTF-8.
-/
namespace TerseQuery

/-- A value in a table. -/
inductive StoredValue where
  | null
  | integer (value : Int)
  /-- A double, or none if it is not finite. -/
  | real (value : Option Binary64)
  | text (bytes : List UInt8)
  | blob (bytes : List UInt8)
  deriving DecidableEq, Repr

/-- The cell that shows a value in a column. -/
def StoredValue.toCell (column : Nat) : StoredValue → Except Failure Json
  | null => .ok .null
  | integer n => .ok (.integer n)
  | real none => .ok .null
  | real (some x) => .ok (.real x)
  | blob bytes => .ok (.text (Text.Base64.encode bytes))
  | text bytes =>
    match Text.decodeUtf8 bytes with
    | .ok s => .ok (.text s)
    | .error fault =>
      .error (.driver s!"Conversion error from type Text at index: {column}, {fault.message}")

/-- What a database answers to a statement. -/
inductive DatabaseReply where
  /-- Rows, all of them as long as there are columns. -/
  | rows (columns : List String) (rows : List (List StoredValue))
  /-- The number of rows that were changed. -/
  | changed (count : Nat)
  | refused (text : String)
  deriving DecidableEq, Repr

/-- The result that a reply stands for. Statements without columns change rows. -/
def DatabaseReply.toResult : DatabaseReply → Except Failure ResultSet
  | rows columns values => do
    let cells ← values.mapM fun row => row.zipIdx.mapM fun (value, column) => value.toCell column
    return ResultSet.ofRows columns cells
  | changed count => .ok (.affected count)
  | refused text => .error (.driver text)

/-- A database that can be opened: what it answers. -/
abbrev Database := String → DatabaseReply

structure SqliteEngine where
  /-- The file to open. -/
  path : Option String
  /-- The databases that are there. -/
  databases : String → Option Database

namespace SqliteEngine

/-- The file that settings name. Parts of a connection name none without an active database. -/
def pathOf (settings : Settings) : Except Failure (Option String) :=
  if settings.database.isNone && settings.connection.definition.isComponents then .ok none
  else (settings.connection.sqlitePath settings.database).map some

/-- The engine with the file that settings name. -/
def configured (e : SqliteEngine) (settings : Settings) : Except Failure SqliteEngine :=
  (pathOf settings).map fun path => { e with path }

/-- The engine for settings, with the databases that are there. -/
def ofSettings (settings : Settings) (databases : String → Option Database) :
    Except Failure SqliteEngine :=
  configured ⟨none, databases⟩ settings

/-- The answer to a statement. -/
def answer (e : SqliteEngine) (sql : String) : Except Failure ResultSet :=
  match e.path with
  | none => .error (.connection .noDatabase)
  | some path =>
    match e.databases path with
    | none => .error (.connection (.unopened path))
    | some database => (database sql).toResult

instance : Engine SqliteEngine where
  configure settings e :=
    match e.configured settings with
    | .ok configured => (.ok (), configured)
    | .error failure => (.error failure, e)
  execute sql e := (e.answer sql, e)

end SqliteEngine

end TerseQuery
