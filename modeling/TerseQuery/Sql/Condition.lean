import TerseQuery.Failure
import TerseQuery.Sql.Literal

/-!
# Predicates and conditions

A predicate is a word that compares a column with a value. A condition is what it says in SQL, where the
missing value is asked for by name and two-valued logic counts it among the values that differ.
-/
namespace TerseQuery.Sql

/-- How a predicate compares. -/
inductive Comparison where
  | atMost
  | atLeast
  | differs
  | differsAngled
  | equalsTwice
  | equals
  | below
  | above
  deriving DecidableEq, Repr

namespace Comparison

/-- The comparisons in the order in which they are tried at one place. -/
def all : List Comparison :=
  [atMost, atLeast, differs, differsAngled, equalsTwice, equals, below, above]

/-- How a comparison is written in a token. -/
def symbol : Comparison → String
  | atMost => "<="
  | atLeast => ">="
  | differs => "!="
  | differsAngled => "<>"
  | equalsTwice => "=="
  | equals => "="
  | below => "<"
  | above => ">"

/-- How a comparison is written in SQL. -/
def sqlSymbol : Comparison → String
  | equalsTwice => "="
  | differs => "<>"
  | other => other.symbol

def isEquality : Comparison → Bool
  | equals => true
  | equalsTwice => true
  | _ => false

def isNegation : Comparison → Bool
  | differs => true
  | differsAngled => true
  | _ => false

/-- The comparison that a text starts with. -/
def leading? (cs : List Char) : Option Comparison :=
  all.find? fun comparison => comparison.symbol.toList.isPrefixOf cs

end Comparison

/-- A column compared with a value. -/
structure Predicate where
  column : String
  comparison : Comparison
  value : String
  deriving DecidableEq, Repr

/-- The text before the first comparison, the comparison, and the text after it. -/
def firstComparison? : List Char → Option (List Char × Comparison × List Char)
  | [] => none
  | c :: rest =>
    match Comparison.leading? (c :: rest) with
    | some comparison => some ([], comparison, (c :: rest).drop comparison.symbol.length)
    | none => (firstComparison? rest).map fun parts => (c :: parts.1, parts.2)

namespace Predicate

/-- The token of a predicate. -/
def text (p : Predicate) : String :=
  p.column ++ p.comparison.symbol ++ p.value

/-- The predicate that a word is: cut at its first comparison, with a name before it. -/
def ofWord (word : String) : Except Failure Predicate :=
  match firstComparison? word.toList with
  | none => .error (.infeasible word)
  | some (before, comparison, after) =>
    let column := String.ofList before
    if isIdentifier column then .ok ⟨column, comparison, String.ofList after⟩
    else .error (.infeasible word)

end Predicate

/-- A condition on a row. -/
inductive Condition where
  | isNull (column : String)
  | isNotNull (column : String)
  | compares (column : String) (comparison : Comparison) (literal : String)
  /-- The column differs from the literal or is missing. -/
  | differsOrNull (column literal : String)
  deriving DecidableEq, Repr

namespace Condition

/-- What a predicate says. The missing value is equal or not, and nothing else. -/
def ofPredicate (twoValued : Bool) (p : Predicate) : Except Failure Condition :=
  if Sql.isNull p.value then
    if p.comparison.isEquality then .ok (.isNull p.column)
    else if p.comparison.isNegation then .ok (.isNotNull p.column)
    else .error (.infeasible p.text)
  else if p.comparison.isNegation && twoValued then .ok (.differsOrNull p.column (literal p.value))
  else .ok (.compares p.column p.comparison (literal p.value))

def toSql : Condition → String
  | .isNull column => column ++ " IS NULL"
  | .isNotNull column => column ++ " IS NOT NULL"
  | .compares column comparison literal => column ++ " " ++ comparison.sqlSymbol ++ " " ++ literal
  | .differsOrNull column literal =>
    "(" ++ column ++ " <> " ++ literal ++ " OR " ++ column ++ " IS NULL)"

end Condition

end TerseQuery.Sql
