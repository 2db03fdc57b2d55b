import TerseQuery.Json.Basic
import TerseQuery.Text.Numeral

/-!
# Reading JSON

Strict JSON: one value with blanks around it and nothing else. Values nest at most 127 deep, numbers that
are too large for a double are refused, and in texts raw control characters and single surrogates are.
Of fields with one name the last counts.
-/
namespace TerseQuery.Json

open Text (digitsValue)

/-- The blanks between the parts of a text. -/
def isSpace (c : Char) : Bool :=
  c == ' ' || c == '\n' || c == '\t' || c == '\r'

def skipSpace (cs : List Char) : List Char :=
  cs.dropWhile isSpace

/-! ## Texts -/

/-- The value of a hexadecimal digit. -/
def hexDigit? (c : Char) : Option Nat :=
  if '0' ≤ c ∧ c ≤ '9' then some (c.toNat - '0'.toNat)
  else if 'a' ≤ c ∧ c ≤ 'f' then some (c.toNat - 'a'.toNat + 10)
  else if 'A' ≤ c ∧ c ≤ 'F' then some (c.toNat - 'A'.toNat + 10)
  else none

/-- The value of four hexadecimal digits. -/
def hexUnit? (a b c d : Char) : Option Nat := do
  let a ← hexDigit? a
  let b ← hexDigit? b
  let c ← hexDigit? c
  let d ← hexDigit? d
  return ((a * 16 + b) * 16 + c) * 16 + d

/-- The character that a backslash and a letter stand for. -/
def escaped? : Char → Option Char
  | '"' => some '"'
  | '\\' => some '\\'
  | '/' => some '/'
  | 'b' => some '\x08'
  | 'f' => some '\x0c'
  | 'n' => some '\n'
  | 'r' => some '\r'
  | 't' => some '\t'
  | _ => none

/-- The character of a pair of surrogates. -/
def surrogatePair? (high low : Nat) : Option Char :=
  if 0xD800 ≤ high ∧ high < 0xDC00 ∧ 0xDC00 ≤ low ∧ low < 0xE000 then
    some (Char.ofNat (0x10000 + (high - 0xD800) * 0x400 + (low - 0xDC00)))
  else none

/-- One character put before what was read. -/
def consRead (c : Char) (read : Option (List Char × List Char)) : Option (List Char × List Char) :=
  read.map fun parts => (c :: parts.1, parts.2)

/-- The text up to the closing quote, and what follows the quote. -/
def readText : List Char → Option (List Char × List Char)
  | [] => none
  | '"' :: rest => some ([], rest)
  | '\\' :: 'u' :: a :: b :: c :: d :: rest =>
    match hexUnit? a b c d with
    | none => none
    | some unit =>
      if unit < 0xD800 ∨ 0xE000 ≤ unit then consRead (Char.ofNat unit) (readText rest)
      else
        match rest with
        | '\\' :: 'u' :: e :: f :: g :: h :: after =>
          match hexUnit? e f g h with
          | none => none
          | some low =>
            match surrogatePair? unit low with
            | none => none
            | some pair => consRead pair (readText after)
        | _ => none
  | '\\' :: c :: rest =>
    match escaped? c with
    | none => none
    | some plain => consRead plain (readText rest)
  | c :: rest => if c.toNat < 0x20 then none else consRead c (readText rest)

/-! ## Numbers -/

/-- The digits that a text starts with, and the rest. -/
def readDigits (cs : List Char) : List Char × List Char :=
  (cs.takeWhile Char.isDigit, cs.dropWhile Char.isDigit)

/-- The greatest integer that is kept exact. -/
def greatestInteger : Nat := UInt64.size - 1

/-- Digits appended to a significand as long as it stays within 64 bits, and the number of digits that
are left over. -/
def gather (significand : Nat) : List Char → Nat × Nat
  | [] => (significand, 0)
  | c :: rest =>
    let longer := digitsValue significand [c]
    if longer ≤ greatestInteger then gather longer rest else (significand, rest.length + 1)

/-- The double that digits before and after a point and an exponent stand for. -/
def realOf? (negative : Bool) (whole fraction : List Char) (exponent : Int) : Option Binary64 :=
  let (upper, uncounted) := gather 0 whole
  let (significand, dropped) := gather upper fraction
  let power := exponent + uncounted - (fraction.length - dropped : Nat)
  (Magnitude.ofDecimal? significand power).map fun m => ⟨negative, m⟩

/-- A number without point and exponent. Minus zero is a double. -/
def wholeNumber? (negative : Bool) (whole : List Char) : Option Json :=
  let n := digitsValue 0 whole
  if !negative && n ≤ greatestInteger then some (.integer n)
  else if negative && 0 < n && n ≤ UInt64.size / 2 then some (.integer (-n))
  else (realOf? negative whole [] 0).map .real

/-- A point with the digits after it, if there is a point. -/
def readFraction : List Char → Option (Option (List Char) × List Char)
  | '.' :: rest =>
    let (digits, after) := readDigits rest
    if digits.isEmpty then none else some (some digits, after)
  | cs => some (none, cs)

/-- The digits of an exponent of given sign. -/
def readExponentDigits (negative : Bool) (cs : List Char) : Option (Option Int × List Char) :=
  let (digits, after) := readDigits cs
  if digits.isEmpty then none
  else
    let n : Int := digitsValue 0 digits
    some (some (if negative then -n else n), after)

/-- An exponent, if there is one. -/
def readExponent : List Char → Option (Option Int × List Char)
  | c :: rest =>
    if c == 'e' || c == 'E' then
      match rest with
      | '+' :: digits => readExponentDigits false digits
      | '-' :: digits => readExponentDigits true digits
      | digits => readExponentDigits false digits
    else some (none, c :: rest)
  | [] => some (none, [])

/-- A number after its sign. A leading zero stands alone. -/
def readUnsigned (negative : Bool) (cs : List Char) : Option (Json × List Char) := do
  let (whole, rest) := readDigits cs
  if whole.isEmpty || (whole.head? == some '0' && whole.length > 1) then none
  else
    let (fraction, rest) ← readFraction rest
    let (exponent, rest) ← readExponent rest
    let value ←
      if fraction.isNone && exponent.isNone then wholeNumber? negative whole
      else (realOf? negative whole (fraction.getD []) (exponent.getD 0)).map .real
    return (value, rest)

/-- A number. -/
def readNumber : List Char → Option (Json × List Char)
  | '-' :: rest => readUnsigned true rest
  | cs => readUnsigned false cs

/-! ## Values -/

/-- What follows `word` in a text that starts with it. -/
def expect (word : List Char) (cs : List Char) : Option (List Char) :=
  if word.isPrefixOf cs then some (cs.drop word.length) else none

mutual

/-- A value and what follows it. At most `depth` lists and records may be opened; `fuel` bounds the steps. -/
def readValue : (fuel depth : Nat) → List Char → Option (Json × List Char)
  | 0, _, _ => none
  | fuel + 1, depth, cs =>
    match skipSpace cs with
    | '"' :: rest => (readText rest).map fun parts => (.text (String.ofList parts.1), parts.2)
    | '[' :: rest =>
      match depth with
      | 0 => none
      | inner + 1 =>
        match skipSpace rest with
        | ']' :: after => some (.list [], after)
        | items => (readItems fuel inner items).map fun parts => (.list parts.1, parts.2)
    | '\x7b' :: rest =>
      match depth with
      | 0 => none
      | inner + 1 =>
        match skipSpace rest with
        | '\x7d' :: after => some (.record [], after)
        | fields =>
          (readFields fuel inner fields).map fun parts => (.record (sortEntries parts.1), parts.2)
    | 'n' :: rest => (expect ['u', 'l', 'l'] rest).map fun after => (.null, after)
    | 't' :: rest => (expect ['r', 'u', 'e'] rest).map fun after => (.bool true, after)
    | 'f' :: rest => (expect ['a', 'l', 's', 'e'] rest).map fun after => (.bool false, after)
    | other => readNumber other

/-- The items of a list that is not empty, up to its end. -/
def readItems : (fuel depth : Nat) → List Char → Option (List Json × List Char)
  | 0, _, _ => none
  | fuel + 1, depth, cs =>
    match readValue fuel depth cs with
    | none => none
    | some (item, rest) =>
      match skipSpace rest with
      | ',' :: more => (readItems fuel depth more).map fun parts => (item :: parts.1, parts.2)
      | ']' :: after => some ([item], after)
      | _ => none

/-- The fields of a record that is not empty, up to its end. -/
def readFields : (fuel depth : Nat) → List Char → Option (List (String × Json) × List Char)
  | 0, _, _ => none
  | fuel + 1, depth, cs =>
    match skipSpace cs with
    | '"' :: named =>
      match readText named with
      | none => none
      | some (name, rest) =>
        match skipSpace rest with
        | ':' :: valued =>
          match readValue fuel depth valued with
          | none => none
          | some (value, rest) =>
            let entry := (String.ofList name, value)
            match skipSpace rest with
            | ',' :: more => (readFields fuel depth more).map fun parts => (entry :: parts.1, parts.2)
            | '\x7d' :: after => some ([entry], after)
            | _ => none
        | _ => none
    | _ => none

end

/-- How deep values may nest. -/
def greatestDepth : Nat := 127

/-- The value that a text holds. -/
def read? (s : String) : Option Json :=
  let cs := s.toList
  match readValue (2 * cs.length + 2) greatestDepth cs with
  | some (value, rest) => if (skipSpace rest).isEmpty then some value else none
  | none => none

end TerseQuery.Json
