import TerseQuery.CommandLine.Arguments
import TerseQuery.Engine.Sqlite
import TerseQuery.Json.Printer
import TerseQuery.Query.Json
import TerseQuery.Session.Dispatch

/-!
# Running the program

The program runs one line: it loads the settings, puts the options of the command line over them, and
dispatches the line to a session on SQLite or, if asked to explain, shows the sorted line.
-/
namespace TerseQuery.CommandLine

/-- What the program finds. -/
structure Surroundings where
  disk : Disk
  places : SettingsPlaces
  /-- The databases that can be opened. -/
  databases : String → Option Database
  /-- The database to use if the arguments name none. -/
  database : Option String
  /-- Option tokens for each session. -/
  options : Option String

/-- What the program leaves. -/
structure Report where
  code : Nat
  output : String
  /-- What it says about a failure. -/
  complaint : Option String
  disk : Disk

/-- The name of the program and its version. -/
def versionLine : String := "mini 0.1.0"

def usageLine : String := "Usage: mini [OPTIONS] [--] [TOKENS]..."

/-- Settings with the options of the command line over them. -/
def overridden (s : Settings) (a : Arguments) (database : Option String) : Settings :=
  { s with
    database := a.database <|> database <|> s.database
    table := a.table <|> s.table
    format := a.format.getD s.format
    leader := a.leader.getD s.leader }

/-- The settings in the file that the arguments name, or else in their usual places. -/
def loadSettings (around : Surroundings) (a : Arguments) : Except Failure Settings :=
  match a.settings with
  | some path => Settings.load around.disk [path]
  | none => Settings.loadFrom around.disk around.places

/-- What is said about settings that cannot be loaded. -/
def loadingText (a : Arguments) : String :=
  match a.settings with
  | some path => s!"loading settings from {path}"
  | none => "loading settings"

/-- The session of the program. -/
def openSession (around : Surroundings) (a : Arguments) (loaded : Settings) :
    Except Failure (Session SqliteEngine) := do
  let settings := overridden loaded a around.database
  let engine ← SqliteEngine.ofSettings settings around.databases
  (Session.start settings engine a.width).seed around.options

/-- The sorted line as it is explained: a query with its kind. -/
def explained (session : Session SqliteEngine) (tokens : List String) : Except Failure String := do
  let query := (session.sort tokens).1
  let query ← if query.isQueryLine then query.withKind else pure query
  return query.toJson.pretty

/-- What is left when a line fails or succeeds. -/
def report (disk : Disk) (output : String) : Except String Unit → Report
  | .ok () => ⟨0, output, none, disk⟩
  | .error reason => ⟨1, output, some ("Error: " ++ reason), disk⟩

/-- Runs a line. -/
def runLine (around : Surroundings) (a : Arguments) : Report :=
  match loadSettings around a with
  | .error _ => report around.disk "" (.error (loadingText a))
  | .ok loaded =>
    match openSession around a loaded with
    | .error failure => report around.disk "" (.error failure.message)
    | .ok session =>
      if a.explain then
        match explained session a.tokens with
        | .ok text => report around.disk (text ++ "\n") (.ok ())
        | .error failure => report around.disk "" (.error failure.message)
      else
        match dispatch a.tokens ⟨session, around.disk, around.places, .unbounded⟩ with
        | .ok _ stage => report stage.disk stage.output.text (.ok ())
        | .error failure stage => report stage.disk stage.output.text (.error failure.message)

/-- Runs the program. -/
def run (around : Surroundings) (arguments : List String) : Report :=
  match read arguments with
  | .run a => runLine around a
  | .version => ⟨0, versionLine ++ "\n", none, around.disk⟩
  | .help => ⟨0, usageLine ++ "\n", none, around.disk⟩
  | .refused => ⟨2, "", some ("error: " ++ usageLine), around.disk⟩

end TerseQuery.CommandLine
