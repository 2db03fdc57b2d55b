/-!
# Base64

Bytes as text of 64 letters, three bytes in four letters. The last group is filled up with `=`.

* `length_encode`: each group of up to three bytes takes four letters.
-/
namespace TerseQuery.Text.Base64

/-- The letter of a six-bit number: capitals, small letters, digits, `+` and `/`. -/
def letter (n : Nat) : Char :=
  if n < 26 then Char.ofNat ('A'.toNat + n)
  else if n < 52 then Char.ofNat ('a'.toNat + (n - 26))
  else if n < 62 then Char.ofNat ('0'.toNat + (n - 52))
  else if n = 62 then '+'
  else '/'

/-- The letters of a group with `a`, `b` and `c` as its bytes. -/
def letters (a b c : UInt8) : Char × Char × Char × Char :=
  let bits := (a.toNat * 0x100 + b.toNat) * 0x100 + c.toNat
  (letter (bits / 0x40000), letter (bits / 0x1000 % 0x40), letter (bits / 0x40 % 0x40), letter (bits % 0x40))

def encodeBytes : List UInt8 → List Char
  | [] => []
  | [a] =>
    let (p, q, _, _) := letters a 0 0
    [p, q, '=', '=']
  | [a, b] =>
    let (p, q, r, _) := letters a b 0
    [p, q, r, '=']
  | a :: b :: c :: rest =>
    let (p, q, r, s) := letters a b c
    p :: q :: r :: s :: encodeBytes rest

/-- The text of some bytes. -/
def encode (bytes : List UInt8) : String :=
  String.ofList (encodeBytes bytes)

theorem length_encode (bytes : List UInt8) :
    (encodeBytes bytes).length = 4 * ((bytes.length + 2) / 3) := by
  fun_induction encodeBytes bytes with
  | case1 => rfl
  | case2 => simp
  | case3 => simp
  | case4 a b c rest p q r s _ ih => simp only [List.length_cons, ih]; omega

end TerseQuery.Text.Base64
