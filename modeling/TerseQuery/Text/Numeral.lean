/-!
# Numerals

Texts that are numbers as they stand: decimals with a sign, a point or an exponent, and natural numbers of
64 bits.
-/
namespace TerseQuery.Text

/-- A text without a sign before it. -/
def dropSign : List Char → List Char
  | '+' :: rest => rest
  | '-' :: rest => rest
  | cs => cs

/-- Whether a text is nothing or an exponent with at least one digit. -/
def isExponent : List Char → Bool
  | [] => true
  | c :: rest =>
    let digits := dropSign rest
    (c == 'e' || c == 'E') && !digits.isEmpty && digits.all Char.isDigit

/-- Whether a text is nothing or a point with digits, then nothing or an exponent; `counted` tells whether
there was a digit before. -/
def isFraction (counted : Bool) : List Char → Bool
  | '.' :: rest =>
    (counted || !(rest.takeWhile Char.isDigit).isEmpty) && isExponent (rest.dropWhile Char.isDigit)
  | rest => counted && isExponent rest

/-- Whether a text is a decimal: a sign, digits with at most one point among them, and an exponent; sign and
exponent may be missing, one digit may not. -/
def isNumeral (s : String) : Bool :=
  let cs := dropSign s.toList
  isFraction (!(cs.takeWhile Char.isDigit).isEmpty) (cs.dropWhile Char.isDigit)

/-- The value of decimal digits after a value read before. -/
def digitsValue (before : Nat) (digits : List Char) : Nat :=
  digits.foldl (fun n c => n * 10 + (c.toNat - '0'.toNat)) before

/-- The natural number of 64 bits that a text is, with or without a plus sign. -/
def natural? (s : String) : Option Nat :=
  let digits := match s.toList with
    | '+' :: rest => rest
    | cs => cs
  if digits.isEmpty || !digits.all Char.isDigit then none
  else
    let n := digitsValue 0 digits
    if n < UInt64.size then some n else none

end TerseQuery.Text
