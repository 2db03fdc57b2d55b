import TerseQuery.Engine.Basic
import TerseQuery.Query.Sorting
import TerseQuery.Settings.Files
import TerseQuery.Sink

/-!
# Sessions

A session holds settings, options, the last password given for a line, and an engine. Lines act on the
session and on what is around it: the disk and the output. An action that fails leaves all that it did
before it failed.

* `Session.sort`: a line sorted by the session's leader, table and options.
* `SessionM.configure`: settings handed to the engine, with the password in force.
-/
namespace TerseQuery

structure Session (ε : Type) where
  settings : Settings
  registry : OptionRegistry
  /-- The last password given for a line. It stays in force, and is never part of the settings. -/
  credential : Option Credential
  engine : ε
  width : TerminalWidth

namespace Session

variable {ε : Type}

/-- A session at its beginning. -/
def start (settings : Settings) (engine : ε) (width : TerminalWidth) : Session ε :=
  ⟨settings, .fresh, none, engine, width⟩

/-- The session with the persistent options set up from the settings and the option tokens of a text. -/
def seed (s : Session ε) (extra : Option String) : Except Failure (Session ε) :=
  (s.registry.seed s.settings.format s.settings.runMode extra).map fun registry => { s with registry }

/-- A line sorted, and the session with the line's options. -/
def sort (s : Session ε) (tokens : List String) : Query × Session ε :=
  let (query, registry) := sortLine s.settings.leader s.settings.table s.registry.clearTransient tokens
  (query, { s with registry })

/-- Settings as the engine is to have them: with the password in force. -/
def forEngine (s : Session ε) (settings : Settings) : Settings :=
  match s.credential with
  | some credential => { settings with connection := settings.connection.applyCredential credential }
  | none => settings

end Session

/-- What lines act on. -/
structure Stage (ε : Type) where
  session : Session ε
  disk : Disk
  /-- Where settings are kept. -/
  places : SettingsPlaces
  output : Sink

/-- Something done on a stage, with a value or a failure. -/
abbrev SessionM (ε α : Type) := EStateM Failure (Stage ε) α

namespace SessionM

variable {ε α : Type}

def session : SessionM ε (Session ε) :=
  return (← get).session

def settings : SessionM ε Settings :=
  return (← session).settings

def modifySession (change : Session ε → Session ε) : SessionM ε Unit :=
  modify fun stage => { stage with session := change stage.session }

def modifySettings (change : Settings → Settings) : SessionM ε Unit :=
  modifySession fun s => { s with settings := change s.settings }

def modifyRegistry (change : OptionRegistry → OptionRegistry) : SessionM ε Unit :=
  modifySession fun s => { s with registry := change s.registry }

/-- Texts written to the output, one after the other. -/
def writeAll (texts : List String) : SessionM ε Unit := do
  let (output, written) := (← get).output.writeAll texts
  modify fun stage => { stage with output }
  ofExcept written

/-- Lines written to the output, one after the other. -/
def writeLines (lines : List String) : SessionM ε Unit :=
  writeAll (lines.map (· ++ "\n"))

def writeLine (line : String) : SessionM ε Unit :=
  writeLines [line]

/-- Hands settings to the engine, with the password in force. -/
def configure [Engine ε] (settings : Settings) : SessionM ε Unit := do
  let s ← session
  let (accepted, engine) := Engine.configure (s.forEngine settings) s.engine
  modifySession fun s => { s with engine }
  ofExcept accepted

/-- Has the engine run a statement. -/
def execute [Engine ε] (sql : String) : SessionM ε ResultSet := do
  let (answer, engine) := Engine.execute sql (← session).engine
  modifySession fun s => { s with engine }
  ofExcept answer

end SessionM

end TerseQuery
