import TerseQuery.Decimal.Binary64

/-!
# The shortest decimal of a double

Among the decimals that are nearer to a magnitude than to any other, the one with the fewest digits,
and of these the nearest: the multiple of the largest power of ten that rounds back to the magnitude.
-/
namespace TerseQuery

/-- A decimal `digits · 10 ^ power`. -/
structure Decimal where
  digits : Nat
  power : Int
  deriving DecidableEq, Repr

namespace Magnitude

/-- The bounds between which numbers round to a magnitude, and the magnitude itself, in quarters of its
unit. The lower bound is nearer where the unit halves. -/
def quarters (m : Magnitude) : Nat × Nat × Nat :=
  let low := if m.mantissa = Nat.pow 2 (precision - 1) && m.exponent > leastExponent then 1 else 2
  (4 * m.mantissa - low, 4 * m.mantissa, 4 * m.mantissa + 2)

/-- The multiple of `10 ^ power` that rounds to the magnitude and is nearest to it, if there is one. -/
def onGrid? (m : Magnitude) (power : Int) : Option Nat :=
  let (low, value, high) := m.quarters
  let factor := Nat.pow 2 (m.exponent - 2).toNat * Nat.pow 10 (-power).toNat
  let unit := Nat.pow 2 (2 - m.exponent).toNat * Nat.pow 10 power.toNat
  let inside := fun (d : Nat) =>
    if m.mantissa % 2 = 0 then low * factor ≤ d * unit && d * unit ≤ high * factor
    else low * factor < d * unit && d * unit < high * factor
  let below := value * factor / unit
  let excess := value * factor % unit
  match inside below, inside (below + 1) with
  | true, true =>
    if 2 * excess < unit || (2 * excess == unit && below % 2 == 0) then some below else some (below + 1)
  | true, false => some below
  | false, true => some (below + 1)
  | false, false => none

/-- The first grid with a hit, from coarse to fine. -/
def searchGrids (m : Magnitude) : Nat → Int → Decimal
  | 0, power => ⟨0, power⟩
  | steps + 1, power =>
    match m.onGrid? power with
    | some digits => ⟨digits, power⟩
    | none => searchGrids m steps (power - 1)

/-- The shortest decimal that rounds to a magnitude. No magnitude needs more than 17 digits, and the
search starts at most four powers above the first of them. -/
def shortest (m : Magnitude) : Decimal :=
  let bits : Int := (m.mantissa.log2 : Int) + m.exponent + 1
  searchGrids m 24 (bits * 30103 / 100000 + 1)

end Magnitude

/-- Where positional notation ends: the least and the greatest number of places before the point at
which a decimal is still written without an exponent. -/
structure DecimalLayout where
  least : Int
  greatest : Int
  deriving DecidableEq, Repr

namespace DecimalLayout

/-- The sign and the digits of an exponent. -/
def exponentText (n : Int) : String :=
  if n < 0 then "-" ++ toString n.natAbs else "+" ++ toString n.natAbs

/-- A decimal with at least one place after the point, or with one digit before the point and an
exponent. -/
def text (layout : DecimalLayout) (d : Decimal) : String :=
  let digits := (toString d.digits).toList
  let point : Int := digits.length + d.power
  if layout.least ≤ point ∧ point ≤ layout.greatest then
    if 0 ≤ d.power then
      String.ofList (digits ++ List.replicate d.power.toNat '0') ++ ".0"
    else if 0 < point then
      String.ofList (digits.take point.toNat) ++ "." ++ String.ofList (digits.drop point.toNat)
    else
      "0." ++ String.ofList (List.replicate (-point).toNat '0' ++ digits)
  else
    let fraction := digits.drop 1
    String.ofList (digits.take 1) ++
      (if fraction.isEmpty then "" else "." ++ String.ofList fraction) ++
      "e" ++ exponentText (point - 1)

end DecimalLayout

/-- A double in shortest digits; zero keeps its sign. -/
def Binary64.text (layout : DecimalLayout) (x : Binary64) : String :=
  let digits := if x.magnitude.mantissa = 0 then "0.0" else layout.text x.magnitude.shortest
  if x.negative then "-" ++ digits else digits

end TerseQuery
