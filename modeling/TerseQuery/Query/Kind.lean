import TerseQuery.Text.Cut

/-!
# Kinds of query

The kind that a verb names and the kind that an operator implies.
-/
namespace TerseQuery

/-- What a query does. -/
inductive QueryKind where
  | select
  | insert
  | update
  | delete
  /-- A statement that does not tell. -/
  | undetermined
  deriving DecidableEq, Repr

namespace QueryKind

def name : QueryKind → String
  | select => "SELECT"
  | insert => "INSERT"
  | update => "UPDATE"
  | delete => "DELETE"
  | undetermined => "UNDETERMINED"

def ofName? (name : String) : Option QueryKind :=
  [select, insert, update, delete, undetermined].find? fun kind => kind.name == name

/-- The kind that a verb names, in any case. -/
def ofVerb? (verb : String) : Option QueryKind :=
  match Text.lower verb with
  | "select" => some select
  | "insert" => some insert
  | "update" => some update
  | "delete" => some delete
  | _ => none

def isDetermined (kind : QueryKind) : Bool :=
  kind != undetermined

/-- The operator of a pair of column and value that is inserted. -/
def insertOperator : String := ".="

/-- The operator that marks the rows that are deleted. -/
def deleteOperator : String := "~="

/-- The operators of assignments. -/
def updateOperators : List String := ["+=", "-=", "*=", "/=", "%=", ":="]

/-- The kind that an operator implies. -/
def ofOperator (symbol : String) : QueryKind :=
  if symbol = insertOperator then insert
  else if symbol = deleteOperator then delete
  else if symbol ∈ updateOperators then update
  else undetermined

theorem ofOperator_eq_update_iff {symbol : String} :
    ofOperator symbol = update ↔ symbol ∈ updateOperators := by
  constructor
  · intro h
    unfold ofOperator at h
    split at h
    · cases h
    · split at h
      · cases h
      · split at h
        · assumption
        · cases h
  · have hall : ∀ symbol ∈ updateOperators, ofOperator symbol = update := by decide
    exact hall symbol

end QueryKind

end TerseQuery
