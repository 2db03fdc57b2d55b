import TerseQuery.Query.Deduction
import TerseQuery.Sql.Statement
import TerseQuery.Text.Blank

/-!
# From sorted lines to statements

Words without sigil are predicates and, with an operator, assignments, pairs or markers; `+` lists columns,
`%` groups and `/` orders by them. Options join conditions, count missing values as different and limit the
rows. The first word that does not fit is what a refusal names.

* `Query.statement`: the statement of a query of known kind.
* `Query.synthesize`: the SQL and its kind.
-/
namespace TerseQuery.Sql

def conditionSigil : String := ""

def columnSigil : String := "+"

def orderSigil : String := "/"

def groupSigil : String := "%"

/-- The sigils that mean something. -/
def knownSigils : List String := [conditionSigil, columnSigil, orderSigil, groupSigil]

/-- The sigils that only a selection knows, in the order in which they are refused. -/
def selectionSigils : List String := [columnSigil, orderSigil, groupSigil]

/-- A word cut at the first occurrence of an operator, with a name before it. -/
def splitAssignment (word symbol : String) : Except Failure (String × String) :=
  match Text.cutAt? word symbol with
  | none => .error (.infeasible word)
  | some (column, value) =>
    if isIdentifier column then .ok (column, value) else .error (.infeasible word)

/-- A word without sigil and the operator recorded for it. -/
structure PlainWord where
  text : String
  operator : Option OperatorUse
  deriving DecidableEq, Repr

end Sql

namespace Query

open Sql

/-- The words without sigil that are not empty. -/
def plainWords (q : Query) : List PlainWord :=
  ((q.bucket conditionSigil).zipIdx.map fun place =>
    ⟨place.1, q.operatorAt? conditionSigil place.2⟩).filter fun word => word.text ≠ ""

def connective (q : Query) : Connective :=
  if q.hasOption "o" then .any else .all

/-- The rows that a query asks for by option. -/
def limit (q : Query) : Except Failure (Option Nat) :=
  match q.optionText? "limit" with
  | none => .ok none
  | some text =>
    match Text.natural? text with
    | some n => .ok (some n)
    | none => .error (.infeasible ("-limit=" ++ text))

/-- The condition that a word stands for, if it is one: a predicate, or a pair with the operator `marker`. -/
def condition? (q : Query) (marker : Option String) (word : PlainWord) :
    Option (Except Failure Condition) :=
  let twoValued := q.hasOption "2v"
  match word.operator with
  | none => some (Predicate.ofWord word.text >>= Condition.ofPredicate twoValued)
  | some op =>
    if some op.symbol = marker then
      some do
        let (column, value) ← splitAssignment word.text op.symbol
        Condition.ofPredicate twoValued ⟨column, .equals, value⟩
    else none

/-- The rows that a query is about. -/
def rowFilter (q : Query) (marker : Option String) : Except Failure RowFilter := do
  let conditions ← (q.plainWords.filterMap (q.condition? marker)).mapM id
  return ⟨q.connective, conditions⟩

/-- Refuses words that only a selection knows. -/
def refuseSelection (q : Query) : Except Failure Unit :=
  match selectionSigils.findSome? fun sigil => (q.bucket sigil).head?.map (sigil ++ ·) with
  | some token => .error (.infeasible token)
  | none => .ok ()

/-- Refuses words that `refused` holds of. -/
def refuseWord (words : List PlainWord) (refused : PlainWord → Bool) : Except Failure Unit :=
  match words.find? refused with
  | some word => .error (.infeasible word.text)
  | none => .ok ()

/-- The columns of a bucket, each of them a name. -/
def columnNames (q : Query) (sigil : String) : Except Failure (List String) :=
  let words := q.bucket sigil
  match words.find? fun word => !isIdentifier word with
  | some word => .error (.infeasible (sigil ++ word))
  | none => .ok words

def selection (q : Query) (table : String) : Except Failure Statement := do
  refuseWord q.plainWords fun word => word.operator.isSome
  let rows ← q.rowFilter none
  let groupBy ← q.columnNames groupSigil
  let orderBy ← q.columnNames orderSigil
  let limit ← q.limit
  return .select (q.bucket columnSigil) table rows groupBy orderBy limit

/-- Whether an insertion was asked for by name, so that plain predicates are pairs too. -/
def insertsByName (q : Query) : Bool :=
  q.foldedCommand? == some "insert" || q.hasOption "I"

/-- The pair that a word stands for. -/
def insertPair (q : Query) (word : PlainWord) : Except Failure InsertPair :=
  match word.operator with
  | some op =>
    if op.symbol = QueryKind.insertOperator then do
      let (column, value) ← splitAssignment word.text QueryKind.insertOperator
      return ⟨column, Sql.literal value⟩
    else .error (.infeasible word.text)
  | none =>
    if q.insertsByName then do
      let p ← Predicate.ofWord word.text
      if p.comparison.isEquality then return ⟨p.column, Sql.literal p.value⟩
      else throw (.infeasible word.text)
    else .error (.infeasible word.text)

def insertion (q : Query) (table : String) : Except Failure Statement := do
  q.refuseSelection
  let pairs ← q.plainWords.mapM q.insertPair
  if pairs.isEmpty then throw (.input (.insertWithoutPairs table))
  return .insert table pairs

/-- The assignment that a word with an operator stands for. -/
def assignment (text : String) (op : OperatorUse) : Except Failure Assignment := do
  if QueryKind.ofOperator op.symbol ≠ .update then throw (.infeasible text)
  let (column, value) ← splitAssignment text op.symbol
  return ⟨column, if op.symbol = ":=" then none else op.symbol.toList.head?, Sql.literal value⟩

def updating (q : Query) (table : String) : Except Failure Statement := do
  q.refuseSelection
  let assignments ← (q.plainWords.filterMap fun word => word.operator.map (assignment word.text)).mapM id
  if assignments.isEmpty then throw (.input (.updateWithoutAssignments table))
  let rows ← q.rowFilter none
  return .update table assignments rows

def deletion (q : Query) (table : String) : Except Failure Statement := do
  q.refuseSelection
  refuseWord q.plainWords fun word => word.operator.any fun op => op.symbol ≠ QueryKind.deleteOperator
  let rows ← q.rowFilter (some QueryKind.deleteOperator)
  return .delete table rows

/-- Refuses words with sigils that mean nothing, and operators in words with sigils. -/
def refuseForeign (q : Query) : Except Failure Unit :=
  match q.buckets.entries.find? fun bucket => !knownSigils.contains bucket.1 with
  | some (sigil, words) => .error (.infeasible (sigil ++ words.head?.getD ""))
  | none =>
    match q.operators.find? fun op => op.sigil ≠ conditionSigil with
    | some op => .error (.infeasible (op.sigil ++ (q.wordOf? op).getD ""))
    | none => .ok ()

/-- The statement that a query of a kind stands for. -/
def statement (q : Query) (kind : QueryKind) : Except Failure Statement := do
  let some table := q.table.map TableRef.name | throw .missingTable
  if !isIdentifier table then throw (.infeasible table)
  q.refuseForeign
  match kind with
  | .select => q.selection table
  | .insert => q.insertion table
  | .update => q.updating table
  | .delete => q.deletion table
  | .undetermined => throw (.input .undeterminedKind)

/-- The kind that literal SQL names with its first word. -/
def literalKind (sql : String) : QueryKind :=
  ((Text.words sql).head?.bind QueryKind.ofVerb?).getD .undetermined

/-- The SQL of a query and its kind. Literal SQL stands as it is. -/
def synthesize (q : Query) : Except Failure (String × QueryKind) :=
  match q.literal with
  | some sql => .ok (sql, literalKind sql)
  | none => do
    let kind ← match q.kind with
      | some kind => pure kind
      | none => q.deduceKind
    let statement ← q.statement kind
    return (statement.toSql, kind)

end Query

end TerseQuery
