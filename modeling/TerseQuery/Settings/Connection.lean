import TerseQuery.Dict
import TerseQuery.Failure
import TerseQuery.Query.Basic

/-!
# Connections

How a database is reached: the definition of the connection, the user and the password. A password is held
as it is or found in a variable. From these come the connection string and, for SQLite, the file to open.
-/
namespace TerseQuery

/-- The parts of a connection string. -/
structure ConnectionParts where
  engine : String
  driver : Option String
  host : Option String
  port : Option UInt16
  driverOptions : Option String
  deriving DecidableEq, Repr

/-- How a connection is defined. -/
inductive ConnectionDefinition where
  /-- A connection string that stands as it is. -/
  | fullString (text : String)
  /-- A file, and the engine that reads it if one is named. -/
  | fullPath (engine : Option String) (path : String)
  | components (parts : ConnectionParts)
  deriving DecidableEq, Repr

/-- The engine that is meant where none is named. -/
def sqliteName : String := "sqlite"

namespace ConnectionDefinition

instance : Inhabited ConnectionDefinition := ⟨.components ⟨sqliteName, none, none, none, none⟩⟩

/-- Whether a definition leaves it to the active database what to open. -/
def isComponents : ConnectionDefinition → Bool
  | components _ => true
  | _ => false

end ConnectionDefinition

/-- How a database is reached. -/
structure Connection where
  definition : ConnectionDefinition
  user : Option String
  password : Option String
  /-- The variable that holds the password if none is given. -/
  passwordVariable : Option String
  deriving DecidableEq, Repr

/-- Two texts with a mark between them, if neither is empty. -/
def joinNonempty (mark left right : String) : String :=
  if left = "" ∨ right = "" then left ++ right else left ++ mark ++ right

namespace Connection

instance : Inhabited Connection := ⟨⟨default, none, none, none⟩⟩

/-- The connection with the password of a credential. -/
def applyCredential (c : Connection) (credential : Credential) : Connection :=
  { c with password := some credential.password }

/-- The password to connect with: the one held, or else the one in the variable, which then has to be
there. -/
def resolvePassword (c : Connection) (environment : Dict String) : Except Failure (Option String) :=
  match c.password, c.passwordVariable with
  | some password, _ => .ok (some password)
  | none, none => .ok none
  | none, some name =>
    match environment.get? name with
    | some password => .ok (some password)
    | none => .error (.config (.missingVariable name))

/-- A text and, behind a mark, what may follow it; nothing without the text. -/
def withSuffix (mark : String) (text suffix : Option String) : String :=
  match text, suffix with
  | none, _ => ""
  | some text, none => text
  | some text, some suffix => text ++ mark ++ suffix

/-- The connection string of some parts. A separator stands only between two parts that are not empty. -/
def assemble (parts : ConnectionParts) (user password database : Option String) : String :=
  let account := withSuffix ":" user password
  let server := withSuffix ":" parts.host (parts.port.map fun port => toString port.toNat)
  let source := withSuffix "?" database parts.driverOptions
  withSuffix "+" (some parts.engine) parts.driver ++ "://" ++
    joinNonempty "/" (joinNonempty "@" account server) source

/-- The connection string for a database. -/
def connectionString (c : Connection) (environment : Dict String) (database : Option String) :
    Except Failure String :=
  match c.definition with
  | .fullString text => .ok text
  | .fullPath engine path => .ok (engine.elim path (· ++ ":" ++ path))
  | .components parts => do
    let password ← c.resolvePassword environment
    return assemble parts c.user password database

/-- The file behind the name of the engine in a connection string. -/
def stripEngine? (text : String) : Option String :=
  Text.strip? text (sqliteName ++ "://") <|> Text.strip? text (sqliteName ++ ":")

/-- The file that SQLite is to open. -/
def sqlitePath (c : Connection) (database : Option String) : Except Failure String :=
  match c.definition with
  | .fullPath engine path =>
    if engine.all (· == sqliteName) then .ok path else .error (.config .notSqlite)
  | .fullString text =>
    match stripEngine? text with
    | some path => .ok path
    | none => .error (.config .notSqlite)
  | .components parts =>
    if parts.engine = sqliteName then
      match database with
      | some path => .ok path
      | none => .error (.config .noDatabase)
    else .error (.config .notSqlite)

end Connection

end TerseQuery
