/-!
# Doubles as exact values

A finite double is a sign and a magnitude `mantissa · 2 ^ exponent`, with a mantissa below `2 ^ 53` and an
exponent of at least `-1074`. A quotient of natural numbers is rounded to the nearest magnitude, a half
to the even one, in exact arithmetic.
-/
namespace TerseQuery

/-- The magnitude `mantissa · 2 ^ exponent`. -/
structure Magnitude where
  mantissa : Nat
  exponent : Int
  deriving DecidableEq, Repr

/-- A finite double. -/
structure Binary64 where
  negative : Bool
  magnitude : Magnitude
  deriving DecidableEq, Repr

namespace Magnitude

/-- The number of bits of a full mantissa. -/
def precision : Nat := 53

/-- The exponent of the smallest magnitudes. -/
def leastExponent : Int := -1074

/-- The exponent of the largest magnitudes. -/
def greatestExponent : Int := 971

def zero : Magnitude := ⟨0, leastExponent⟩

/-- A quotient times a power of two, as a quotient. -/
def scaled (num den : Nat) (power : Int) : Nat × Nat :=
  (num * Nat.pow 2 power.toNat, den * Nat.pow 2 (-power).toNat)

/-- The natural number nearest to `num / den`, a half going to the even one. -/
def roundHalfEven (num den : Nat) : Nat :=
  let quotient := num / den
  let twice := 2 * (num % den)
  if twice > den || (twice == den && quotient % 2 == 1) then quotient + 1 else quotient

/-- The exponent at which `num / den` has a mantissa of full length, as far as there is one. -/
def exponentOf (num den : Nat) : Int :=
  let coarse : Int := (num.log2 : Int) - den.log2 - precision
  let guess := max leastExponent coarse
  let shifted := scaled num den (-guess)
  if shifted.1 / shifted.2 ≥ Nat.pow 2 precision then guess + 1 else guess

/-- The magnitude nearest to `num / den`, or none if it is too large. -/
def ofQuotient? (num den : Nat) : Option Magnitude :=
  if num = 0 then some zero
  else
    let exponent := exponentOf num den
    let shifted := scaled num den (-exponent)
    let mantissa := roundHalfEven shifted.1 shifted.2
    let result : Magnitude :=
      if mantissa = Nat.pow 2 precision then ⟨Nat.pow 2 (precision - 1), exponent + 1⟩ else ⟨mantissa, exponent⟩
    if result.exponent > greatestExponent then none else some result

/-- The magnitude nearest to a product. -/
def mul? (a b : Magnitude) : Option Magnitude :=
  let product := scaled (a.mantissa * b.mantissa) 1 (a.exponent + b.exponent)
  ofQuotient? product.1 product.2

/-- The magnitude nearest to a quotient. -/
def div? (a b : Magnitude) : Option Magnitude :=
  let quotient := scaled a.mantissa b.mantissa (a.exponent - b.exponent)
  ofQuotient? quotient.1 quotient.2

/-- The magnitude nearest to a power of ten. -/
def tenTo? (n : Nat) : Option Magnitude :=
  ofQuotient? (Nat.pow 10 n) 1

/-- The largest power of ten that is a magnitude. -/
def greatestTen : Nat := 308

/-- Division by the largest power of ten, `n` times or until nothing is left. -/
def divideDown? : Nat → Magnitude → Option Magnitude
  | 0, m => some m
  | n + 1, m =>
    if m.mantissa = 0 then some m
    else do
      let ten ← tenTo? greatestTen
      let smaller ← div? m ten
      divideDown? n smaller

/-- The magnitude written as a significand times a power of ten. The significand is rounded, then
multiplied or divided by the rounded power; each step is rounded by itself. -/
def ofDecimal? (significand : Nat) (power : Int) : Option Magnitude := do
  let m ← ofQuotient? significand 1
  if power ≥ 0 then
    if m.mantissa = 0 then some m
    else if power > greatestTen then none
    else mul? m (← tenTo? power.toNat)
  else
    let places := (-power).toNat
    let steps := (places - 1) / greatestTen
    let rest ← divideDown? steps m
    if rest.mantissa = 0 then some rest
    else div? rest (← tenTo? (places - steps * greatestTen))

end Magnitude

namespace Binary64

/-- The double nearest to an integer. -/
def ofInt? (n : Int) : Option Binary64 :=
  (Magnitude.ofQuotient? n.natAbs 1).map fun m => ⟨decide (n < 0), m⟩

end Binary64

end TerseQuery
