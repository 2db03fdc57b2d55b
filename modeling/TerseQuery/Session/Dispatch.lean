import TerseQuery.Query.Deduction
import TerseQuery.Result.Layout
import TerseQuery.Session.Command
import TerseQuery.Sql.Synthesis

/-!
# Lines of a session

A line is sorted, its password put in force, and then run: as a command, or as a query whose statement is
shown, executed, or both.

* `Query.request`: what a sorted line asks for.
* `dispatch`: all that a line does.
-/
namespace TerseQuery

/-- What a line came to. -/
inductive Outcome where
  /-- A command was done. -/
  | command
  /-- A statement was shown and not executed. -/
  | shown (kind : QueryKind) (sql : String)
  /-- Rows were shown. -/
  | rows (kind : QueryKind) (count : Nat)
  /-- There were no rows to show. -/
  | noRows
  /-- A statement without columns was executed. -/
  | affected (kind : QueryKind) (rows : Nat)
  deriving DecidableEq, Repr

/-- What a line asks for. -/
inductive Request where
  | command (command : Command)
  | query (query : Query)
  deriving DecidableEq

/-- The tokens of a command line that are arguments. -/
def commandArguments (tokens : List String) : List String :=
  (tokens.drop 1).filter fun token => !Token.isOption token

/-- What a sorted line asks for: literal SQL, a command, or a query of deduced kind. -/
def Query.request (q : Query) (tokens : List String) : Except Failure Request :=
  match q.foldedCommand? with
  | some name =>
    if q.isQueryLine then q.withKind.map .query
    else if name = literalVerb then
      if q.literal.isSome then .ok (.query q) else .error (.input .missingStatement)
    else (Command.ofWords name (commandArguments tokens)).map .command
  | none => q.withKind.map .query

namespace Query

/-- Whether the statement of a query is shown. -/
def shows (q : Query) : Bool := q.hasOption "q"

/-- Whether the statement of a query is executed: it is asked for, or nothing else is. -/
def runs (q : Query) : Bool := q.hasOption "r" || !q.shows

/-- The columns that each chunk may start with: the one to order by, then the one that is set for the
table. -/
def anchorCandidates (q : Query) (settings : Settings) : List String :=
  (q.bucket Sql.orderSigil).head?.toList ++
    (q.table.bind fun table => settings.anchorColumns.get? table.name).toList

end Query

namespace SessionM

variable {ε : Type}

/-- Sorts a line. -/
def sort (tokens : List String) : SessionM ε Query := do
  let (query, sorted) := (← session).sort tokens
  modifySession fun _ => sorted
  return query

/-- Puts the password of a line in force, if it has one. -/
def applyCredential [Engine ε] (q : Query) : SessionM ε Unit := do
  if let some credential := q.credential? then
    modifySession fun s => { s with credential := some credential }
    configure (← settings)

/-- Shows what a statement returned: its rows, or how many it changed. -/
def present (q : Query) (kind : QueryKind) (result : ResultSet) : SessionM ε Outcome := do
  if h : result.hasColumns then
    let s ← session
    let mode := q.options.displayMode?.getD s.settings.format
    let anchor := ResultSet.anchorOf result.columns (q.anchorCandidates s.settings)
    writeLines (result.lines h mode s.width anchor)
    return if result.isEmpty then .noRows else .rows kind result.rows.length
  else
    let rows := result.rowsAffected.getD 0
    writeLine s!"{rows} row(s) affected."
    return .affected kind rows

/-- Shows the statement of a query, executes it, or both. -/
def runQuery [Engine ε] (q : Query) : SessionM ε Outcome := do
  let (sql, kind) ← ofExcept q.synthesize
  if q.shows then writeLine sql
  if q.runs then
    let result ← execute sql
    present q kind result
  else return .shown kind sql

end SessionM

/-- All that a line does. -/
def dispatch {ε : Type} [Engine ε] (tokens : List String) : SessionM ε Outcome := do
  let q ← SessionM.sort tokens
  SessionM.applyCredential q
  match ← ofExcept (q.request tokens) with
  | .command command =>
    command.run
    return .command
  | .query q => SessionM.runQuery q

end TerseQuery
