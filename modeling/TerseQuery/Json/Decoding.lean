import TerseQuery.Json.Basic

/-!
# Values from JSON

What a value is read as: a text, a natural number, a list, a dictionary, or something that may be missing.
-/
namespace TerseQuery.Json

def text? : Json → Option String
  | .text s => some s
  | _ => none

/-- A natural number; doubles are none, whatever they are worth. -/
def natural? : Json → Option Nat
  | .integer n => if 0 ≤ n then some n.toNat else none
  | _ => none

/-- A list, each item read by `decode`. -/
def listOf? {α : Type} (decode : Json → Option α) : Json → Option (List α)
  | .list items => items.mapM decode
  | _ => none

/-- A dictionary, each value read by `decode`. -/
def dictOf? {α : Type} (decode : Json → Option α) : Json → Option (Dict α)
  | .record fields =>
    (fields.mapM fun field => (decode field.2).map fun value => (field.1, value)).map Dict.ofList
  | _ => none

/-- A value that may be missing: a field that is not there or null is, any other is read by `decode`. -/
def optionalOf? {α : Type} (decode : Json → Option α) : Option Json → Option (Option α)
  | none => some none
  | some .null => some none
  | some value => (decode value).map some

/-- A value that has a default, for a field that is not there. -/
def defaultOf? {α : Type} (decode : Json → Option α) (default : α) : Option Json → Option α
  | none => some default
  | some value => decode value

/-- A value that has to be there. -/
def requiredOf? {α : Type} (decode : Json → Option α) (value : Option Json) : Option α :=
  value.bind decode

/-- The values of the fields `names`: of a record by name, other fields ignored, or of a list in order,
which may lack the last ones and has no others. -/
def fieldValues? (names : List String) : Json → Option (List (Option Json))
  | .record fields => some (names.map (findEntry · fields))
  | .list items =>
    if items.length ≤ names.length then
      some (items.map some ++ List.replicate (names.length - items.length) none)
    else none
  | _ => none

/-- The choice that a value names: as a text, or as the one field of a record, with null. -/
def choiceOf? {α : Type} (ofName? : String → Option α) : Json → Option α
  | .text name => ofName? name
  | .record [(name, .null)] => ofName? name
  | _ => none

end TerseQuery.Json
