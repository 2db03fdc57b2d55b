/-!
# Failures

What can go wrong with a line, by cause. Each failure has a stable code for hosts and a message for
readers. An empty result is no failure.
-/
namespace TerseQuery

/-- Why a line's arguments make no sense. -/
inductive InputFault where
  /-- A command lacks its arguments. -/
  | usage (form : String)
  | unknownCommand (name : String)
  | unknownFormat (text : String)
  | unnamedOption (argument : String)
  /-- A variable, alias or abbreviation that was asked for does not exist. -/
  | undefined (what name : String)
  | undeterminedKind
  | insertWithoutPairs (table : String)
  | updateWithoutAssignments (table : String)
  | missingStatement
  | other (text : String)
  deriving DecidableEq, Repr

/-- Why settings cannot be used. -/
inductive ConfigFault where
  | alreadySeeded
  | missingVariable (name : String)
  | notSqlite
  | noDatabase
  | unreadableFile
  | malformedFile (path : String)
  | malformedSettings
  | uncreatedDirectory
  | unwrittenFile
  | other (text : String)
  deriving DecidableEq, Repr

/-- Why no database is open. -/
inductive ConnectionFault where
  | noDatabase
  | unopened (path : String)
  | other (text : String)
  deriving DecidableEq, Repr

/-- A failure of a line. -/
inductive Failure where
  /-- Two indicators ask for different kinds of query. -/
  | inconsistentKind (first second : String)
  /-- The engine refused a statement or failed on it. -/
  | driver (text : String)
  | connection (fault : ConnectionFault)
  | missingTable
  /-- A token has no meaning in the place where it stands. -/
  | infeasible (token : String)
  | input (fault : InputFault)
  | config (fault : ConfigFault)
  /-- The output did not take what was written. -/
  | output (text : String)
  deriving DecidableEq, Repr

namespace InputFault

def message : InputFault → String
  | .usage form => s!"Usage: {form}"
  | .unknownCommand name => s!"Unknown command '{name}'"
  | .unknownFormat text => s!"Unknown display format '{text}' (expected tab, wrap, nowrap or vertical)"
  | .unnamedOption argument => s!"Invalid option '{argument}'"
  | .undefined what name => s!"{what} '{name}' is not defined"
  | .undeterminedKind => "Query kind could not be determined"
  | .insertWithoutPairs table => s!"INSERT into {table} needs at least one col.=value"
  | .updateWithoutAssignments table => s!"UPDATE of {table} needs at least one col:=value"
  | .missingStatement => "sq requires an SQL statement"
  | .other text => text

end InputFault

namespace ConfigFault

def message : ConfigFault → String
  | .alreadySeeded => "Persistent options have already been seeded"
  | .missingVariable name => s!"Environment variable {name} not found for password"
  | .notSqlite => "Connection is not a SQLite database"
  | .noDatabase => "No database selected"
  | .unreadableFile => "Could not read settings file"
  | .malformedFile path => s!"Invalid settings file {path}"
  | .malformedSettings => "Invalid settings"
  | .uncreatedDirectory => "Could not create config directory"
  | .unwrittenFile => "Could not write settings file"
  | .other text => text

end ConfigFault

namespace ConnectionFault

def message : ConnectionFault → String
  | .noDatabase => "No database selected"
  | .unopened path => s!"Failed to open SQLite database {path}"
  | .other text => text

end ConnectionFault

namespace Failure

/-- The code by which a host tells failures apart. -/
def code : Failure → String
  | .inconsistentKind .. => "INCONSISTENT_QUERY_TYPE"
  | .driver _ => "DRIVER_ERROR"
  | .connection _ => "CONNECTION_FAILED"
  | .missingTable => "MISSING_ARGUMENT"
  | .infeasible _ => "INFEASIBLE_EXPR"
  | .input _ => "INVALID_INPUT"
  | .config _ => "CONFIG_ERROR"
  | .output _ => "IO_ERROR"

/-- The text for readers. The engine's own text stands alone. -/
def message : Failure → String
  | .inconsistentKind first second => s!"Inconsistent query type: '{first}' conflicts with '{second}'"
  | .driver text => text
  | .connection fault => "Connection failed: " ++ fault.message
  | .missingTable => "First non-option argument must be a table name."
  | .infeasible token => s!"Illegal grammar / no feasible interpretation for \"{token}\"."
  | .input fault => "Invalid input: " ++ fault.message
  | .config fault => "Configuration error: " ++ fault.message
  | .output text => "I/O error: " ++ text

end Failure

end TerseQuery
