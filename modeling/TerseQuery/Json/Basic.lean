import TerseQuery.Dict
import TerseQuery.Decimal.Binary64

/-!
# JSON values

Integers of 64 bits, signed or unsigned, are exact; all other numbers are doubles. The fields of a record
are a list: a value that was read has them in order of names, a value to be written has them in the
order in which they are to appear.
-/
namespace TerseQuery

/-- A JSON value. -/
inductive Json where
  | null
  | bool (value : Bool)
  | integer (value : Int)
  | real (value : Binary64)
  | text (value : String)
  | list (items : List Json)
  | record (fields : List (String × Json))
  deriving Inhabited

namespace Json

/-- A dictionary as a record. -/
def ofDict {α : Type} (encode : α → Json) (d : Dict α) : Json :=
  .record (d.map encode).entries

/-- The value of a field, if the value is a record that has it. -/
def field? (name : String) : Json → Option Json
  | .record fields => findEntry name fields
  | _ => none

mutual

/-- Whether the fields of all records in a value are in order of names. -/
def isOrdered : Json → Bool
  | .list items => itemsOrdered items
  | .record fields => fieldsOrdered none fields
  | _ => true

def itemsOrdered : List Json → Bool
  | [] => true
  | item :: rest => isOrdered item && itemsOrdered rest

/-- Whether fields are in order, after the name `last` if there is one. -/
def fieldsOrdered (last : Option String) : List (String × Json) → Bool
  | [] => true
  | (name, value) :: rest =>
    last.all (fun before => decide (before < name)) && isOrdered value && fieldsOrdered (some name) rest

end

end Json

end TerseQuery
