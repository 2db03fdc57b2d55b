import TerseQuery.Proofs.Sql.Conditions
import TerseQuery.Proofs.Terse.Items

/-!
# Reference SQL

The SQL that a table and items stand for, written down item by item without sorting or reading any word.

* `reference`: the SQL of a kind of statement.
-/

namespace TerseQuery

open Sql

namespace Item

/-- The condition of a predicate, or of a marker, which states an equality. -/
def condition? (twoValued : Bool) : Item → Option String
  | predicate p => some (conditionText twoValued p)
  | marked column operator value =>
    if operator = "~=" then some (conditionText twoValued ⟨column, .equals, value⟩) else none
  | _ => none

/-- The assignment of an item: a literal, or the column changed by one with the sign of the operator. -/
def assignment? : Item → Option String
  | marked column operator value =>
    some <|
      if operator = ":=" then column ++ " = " ++ literal value
      else
        column ++ " = " ++ column ++ " " ++ String.ofList operator.toList.dropLast ++ " " ++ literal value
  | _ => none

def pair? : Item → Option (String × String)
  | marked column _ value => some (column, literal value)
  | _ => none

def listed? (sigil : String) : Item → Option String
  | listed own name => if own = sigil then some name else none
  | _ => none

def limit? : Item → Option Nat
  | limit n => some n
  | _ => none

def isMarked : Item → Bool
  | marked _ _ _ => true
  | _ => false

end Item

/-- The names that items list under a sigil. -/
def namesUnder (sigil : String) (items : List Item) : List String :=
  items.filterMap (Item.listed? sigil)

/-- Of several limits the last one counts. -/
def lastLimit? (items : List Item) : Option Nat :=
  (items.filterMap Item.limit?).getLast?

/-- A clause of texts joined by a mark, or nothing for no texts. -/
def joined (clause mark : String) : List String → String
  | [] => ""
  | texts => clause ++ mark.intercalate texts

def filterClause (items : List Item) : String :=
  joined " WHERE " (if .anyOf ∈ items then " OR " else " AND ")
    (items.filterMap (Item.condition? (.twoValued ∈ items)))

def atMost : Option Nat → String
  | none => ""
  | some n => " LIMIT " ++ toString n

/-- The columns to show, or all. -/
def shown : List String → String
  | [] => "*"
  | names => ", ".intercalate names

/-- The SQL of a kind of statement that a table and items stand for. -/
def reference (table : String) (items : List Item) : QueryKind → String
  | .select => "SELECT " ++ shown (namesUnder "+" items) ++ " FROM " ++ table ++ filterClause items ++
      joined " GROUP BY " ", " (namesUnder "%" items) ++
      joined " ORDER BY " ", " (namesUnder "/" items) ++ atMost (lastLimit? items)
  | .insert =>
    let pairs := items.filterMap Item.pair?
    "INSERT INTO " ++ table ++ " (" ++ ", ".intercalate (pairs.map Prod.fst) ++ ") VALUES (" ++
      ", ".intercalate (pairs.map Prod.snd) ++ ")"
  | .update => "UPDATE " ++ table ++ " SET " ++ ", ".intercalate (items.filterMap Item.assignment?) ++
      filterClause items
  | .delete => "DELETE FROM " ++ table ++ filterClause items
  | .undetermined => ""

end TerseQuery
