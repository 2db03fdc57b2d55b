import TerseQuery.Json.Basic
import TerseQuery.Decimal.Shortest

/-!
# Writing JSON

Compactly, without blanks, or on indented lines. Fields are written in the order in which a record holds
them.
-/
namespace TerseQuery.Json

/-- Doubles are written without exponent from `0.00001` to below `10 ^ 16`. -/
def realLayout : DecimalLayout := ⟨-4, 16⟩

/-- A hexadecimal digit in lower case. -/
def hexChar (n : Nat) : Char :=
  if n < 10 then Char.ofNat ('0'.toNat + n) else Char.ofNat ('a'.toNat + (n - 10))

/-- A character inside quotes. -/
def escape (c : Char) : List Char :=
  match c with
  | '"' => ['\\', '"']
  | '\\' => ['\\', '\\']
  | '\x08' => ['\\', 'b']
  | '\x0c' => ['\\', 'f']
  | '\n' => ['\\', 'n']
  | '\r' => ['\\', 'r']
  | '\t' => ['\\', 't']
  | c =>
    if c.toNat < 0x20 then ['\\', 'u', '0', '0', hexChar (c.toNat / 16), hexChar (c.toNat % 16)] else [c]

/-- A text in quotes. -/
def quoted (s : String) : List Char :=
  '"' :: (s.toList.flatMap escape ++ ['"'])

/-- A value that is neither list nor record. -/
def scalar : Json → List Char
  | .bool true => ['t', 'r', 'u', 'e']
  | .bool false => ['f', 'a', 'l', 's', 'e']
  | .integer n => (toString n).toList
  | .real x => (x.text realLayout).toList
  | .text s => quoted s
  | _ => ['n', 'u', 'l', 'l']

mutual

/-- A value without blanks. -/
def compactChars : Json → List Char
  | .list items => '[' :: compactItems items
  | .record fields => '\x7b' :: compactFields fields
  | value => scalar value

def compactItems : List Json → List Char
  | [] => [']']
  | [item] => compactChars item ++ [']']
  | item :: rest => compactChars item ++ ',' :: compactItems rest

def compactFields : List (String × Json) → List Char
  | [] => ['\x7d']
  | [(name, value)] => quoted name ++ ':' :: compactChars value ++ ['\x7d']
  | (name, value) :: rest => quoted name ++ ':' :: compactChars value ++ ',' :: compactFields rest

end

/-- A value without blanks, as a string. -/
def compact (value : Json) : String :=
  String.ofList (compactChars value)

/-- A new line at a given level. -/
def newLine (level : Nat) : List Char :=
  '\n' :: List.replicate (2 * level) ' '

mutual

/-- A value on lines that are indented by two spaces for each level. -/
def prettyChars (level : Nat) : Json → List Char
  | .list [] => ['[', ']']
  | .list items => '[' :: prettyItems (level + 1) items ++ newLine level ++ [']']
  | .record [] => ['\x7b', '\x7d']
  | .record fields => '\x7b' :: prettyFields (level + 1) fields ++ newLine level ++ ['\x7d']
  | value => scalar value

def prettyItems (level : Nat) : List Json → List Char
  | [] => []
  | [item] => newLine level ++ prettyChars level item
  | item :: rest => newLine level ++ prettyChars level item ++ ',' :: prettyItems level rest

def prettyFields (level : Nat) : List (String × Json) → List Char
  | [] => []
  | [(name, value)] => newLine level ++ quoted name ++ ':' :: ' ' :: prettyChars level value
  | (name, value) :: rest =>
    newLine level ++ quoted name ++ ':' :: ' ' :: prettyChars level value ++ ',' :: prettyFields level rest

end

/-- A value on indented lines, as a string. -/
def pretty (value : Json) : String :=
  String.ofList (prettyChars 0 value)

end TerseQuery.Json
