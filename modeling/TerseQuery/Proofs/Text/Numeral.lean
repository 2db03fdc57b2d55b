import Mathlib.Data.Bool.AllAny
import Mathlib.Data.List.TakeWhile
import TerseQuery.Text.Numeral

/-!
# Numerals as text

* `isNumber_of_isNumeral`: a numeral is a number, part by part;
* `IsNumber.numeralChar`: a number is made of digits, signs, points and the letters of an exponent;
* `natural?_toString`: a number of 64 bits is read back from its digits.
-/

namespace TerseQuery.Text

/-- The characters of numerals beside digits. -/
def numeralSigns : List Char := ['+', '-', '.', 'e', 'E']

/-- A character that can stand in a numeral. -/
def NumeralChar (c : Char) : Prop :=
  c.isDigit = true ∨ c ∈ numeralSigns

theorem NumeralChar.ne {c d : Char} (h : NumeralChar c) (hdigit : d.isDigit = false)
    (hsign : d ∉ numeralSigns) : c ≠ d := by
  rintro rfl
  rcases h with h | h
  · rw [h] at hdigit
    cases hdigit
  · exact hsign h

/-! ## The parts of a numeral -/

/-- A sign, or nothing. -/
def IsSign (cs : List Char) : Prop :=
  cs ∈ [[], ['+'], ['-']]

def AreDigits (cs : List Char) : Prop :=
  ∀ c ∈ cs, c.isDigit = true

/-- A point and digits after it, or nothing. -/
def IsPointed (cs : List Char) : Prop :=
  cs = [] ∨ ∃ digits, cs = '.' :: digits ∧ AreDigits digits

/-- The letter of an exponent, a sign and at least one digit, or nothing. -/
def IsScaled (cs : List Char) : Prop :=
  cs = [] ∨ ∃ e sign digits, cs = e :: (sign ++ digits) ∧ (e = 'e' ∨ e = 'E') ∧ IsSign sign ∧
    AreDigits digits ∧ digits ≠ []

/-- A number: a sign, digits with at most one point before, among or after them, and an exponent. Sign and
exponent may be missing, and one digit before the exponent may not. -/
def IsNumber (cs : List Char) : Prop :=
  ∃ sign whole pointed scaled, cs = sign ++ (whole ++ (pointed ++ scaled)) ∧ IsSign sign ∧ AreDigits whole ∧
    IsPointed pointed ∧ IsScaled scaled ∧ ∃ c ∈ whole ++ pointed, c.isDigit = true

theorem exists_sign (cs : List Char) : ∃ sign, cs = sign ++ dropSign cs ∧ IsSign sign := by
  unfold dropSign
  split
  · exact ⟨['+'], rfl, by simp [IsSign]⟩
  · exact ⟨['-'], rfl, by simp [IsSign]⟩
  · exact ⟨[], rfl, by simp [IsSign]⟩

theorem areDigits_takeWhile (cs : List Char) : AreDigits (cs.takeWhile Char.isDigit) :=
  fun _ => List.mem_takeWhile_imp

/-- Of digits that are counted there is one. -/
theorem exists_digit {cs : List Char} (h : (!(cs.takeWhile Char.isDigit).isEmpty) = true) :
    ∃ c ∈ cs.takeWhile Char.isDigit, c.isDigit = true := by
  have hne : cs.takeWhile Char.isDigit ≠ [] := by
    intro hnil
    simp [hnil] at h
  obtain ⟨c, hc⟩ := List.exists_mem_of_ne_nil _ hne
  exact ⟨c, hc, areDigits_takeWhile cs c hc⟩

theorem isScaled_of_isExponent {cs : List Char} (h : isExponent cs = true) : IsScaled cs := by
  cases cs with
  | nil => exact .inl rfl
  | cons e rest =>
    simp only [isExponent, Bool.and_eq_true, Bool.or_eq_true, beq_iff_eq, List.all_eq_true] at h
    obtain ⟨⟨hletter, hsome⟩, hdigits⟩ := h
    obtain ⟨sign, hrest, hsign⟩ := exists_sign rest
    exact .inr ⟨e, sign, dropSign rest, by rw [← hrest], hletter, hsign, hdigits, by simpa using hsome⟩

theorem exists_of_isFraction {counted : Bool} {cs : List Char} (h : isFraction counted cs = true) :
    ∃ pointed scaled, cs = pointed ++ scaled ∧ IsPointed pointed ∧ IsScaled scaled ∧
      (counted = true ∨ ∃ c ∈ pointed, c.isDigit = true) := by
  unfold isFraction at h
  split at h
  · rename_i rest
    obtain ⟨hcounted, hexponent⟩ := Bool.and_eq_true_iff.mp h
    refine ⟨'.' :: rest.takeWhile Char.isDigit, rest.dropWhile Char.isDigit, ?_,
      .inr ⟨_, rfl, areDigits_takeWhile rest⟩, isScaled_of_isExponent hexponent, ?_⟩
    · rw [List.cons_append, List.takeWhile_append_dropWhile]
    · rcases Bool.or_eq_true_iff.mp hcounted with hbefore | hafter
      · exact .inl hbefore
      · obtain ⟨c, hc, hdigit⟩ := exists_digit hafter
        exact .inr ⟨c, List.mem_cons_of_mem _ hc, hdigit⟩
  · obtain ⟨hcounted, hexponent⟩ := Bool.and_eq_true_iff.mp h
    exact ⟨[], cs, rfl, .inl rfl, isScaled_of_isExponent hexponent, .inl hcounted⟩

/-- A numeral is a number. -/
theorem isNumber_of_isNumeral {s : String} (h : isNumeral s = true) : IsNumber s.toList := by
  obtain ⟨sign, hs, hsign⟩ := exists_sign s.toList
  obtain ⟨pointed, scaled, hrest, hpointed, hscaled, hcounted⟩ := exists_of_isFraction h
  have hwhole := areDigits_takeWhile (dropSign s.toList)
  refine ⟨sign, (dropSign s.toList).takeWhile Char.isDigit, pointed, scaled, ?_, hsign, hwhole, hpointed,
    hscaled, ?_⟩
  · rw [← hrest, List.takeWhile_append_dropWhile, ← hs]
  · rcases hcounted with hbefore | ⟨c, hc, hdigit⟩
    · obtain ⟨c, hc, hdigit⟩ := exists_digit hbefore
      exact ⟨c, List.mem_append_left _ hc, hdigit⟩
    · exact ⟨c, List.mem_append_right _ hc, hdigit⟩

/-! ## The characters of a numeral -/

theorem IsSign.numeralChar {cs : List Char} (h : IsSign cs) : ∀ c ∈ cs, NumeralChar c := by
  have hall : ∀ sign ∈ [[], ['+'], ['-']], ∀ c ∈ sign, c ∈ numeralSigns := by simp [numeralSigns]
  exact fun c hc => .inr (hall cs h c hc)

theorem AreDigits.numeralChar {cs : List Char} (h : AreDigits cs) : ∀ c ∈ cs, NumeralChar c :=
  fun c hc => .inl (h c hc)

theorem IsPointed.numeralChar {cs : List Char} (h : IsPointed cs) : ∀ c ∈ cs, NumeralChar c := by
  rcases h with rfl | ⟨digits, rfl, hdigits⟩
  · simp
  · exact List.forall_mem_cons.mpr ⟨.inr (by decide), hdigits.numeralChar⟩

theorem IsScaled.numeralChar {cs : List Char} (h : IsScaled cs) : ∀ c ∈ cs, NumeralChar c := by
  rcases h with rfl | ⟨e, sign, digits, rfl, hletter, hsign, hdigits, -⟩
  · simp
  · have he : NumeralChar e := by rcases hletter with rfl | rfl <;> exact .inr (by decide)
    exact List.forall_mem_cons.mpr
      ⟨he, List.forall_mem_append.mpr ⟨hsign.numeralChar, hdigits.numeralChar⟩⟩

theorem IsNumber.numeralChar {cs : List Char} (h : IsNumber cs) : ∀ c ∈ cs, NumeralChar c := by
  obtain ⟨sign, whole, pointed, scaled, rfl, hsign, hwhole, hpointed, hscaled, -⟩ := h
  simp only [List.forall_mem_append]
  exact ⟨hsign.numeralChar, hwhole.numeralChar, hpointed.numeralChar, hscaled.numeralChar⟩

theorem IsNumber.ne_nil {cs : List Char} (h : IsNumber cs) : cs ≠ [] := by
  obtain ⟨sign, whole, pointed, scaled, rfl, -, -, -, -, c, hc, -⟩ := h
  apply List.ne_nil_of_mem (a := c)
  rw [List.mem_append, ← List.append_assoc, List.mem_append]
  exact .inr (.inl hc)

/-! ## Natural numbers -/

theorem digitsValue_eq (before : Nat) (digits : List Char) :
    digitsValue before digits = Nat.ofDigitChars 10 digits before := by
  rw [digitsValue, Nat.ofDigitChars_eq_foldl]
  congr
  funext n c
  rw [Nat.mul_comm]

theorem digitsValue_toDigits (n : Nat) : digitsValue 0 (Nat.toDigits 10 n) = n := by
  rw [digitsValue_eq, Nat.ofDigitChars_ten_toDigits]

theorem isDigit_of_mem_toDigits {n : Nat} {c : Char} (h : c ∈ Nat.toDigits 10 n) : c.isDigit = true :=
  Nat.isDigit_of_mem_toDigits (by decide) (by decide) h

theorem toList_toString (n : Nat) : (toString n).toList = Nat.toDigits 10 n := by
  rw [Nat.toString_eq_ofList_toDigits, String.toList_ofList]

/-- A natural number is read back from its own digits. -/
theorem natural?_toString {n : Nat} (h : n < UInt64.size) : natural? (toString n) = some n := by
  have hchars := toList_toString n
  have hdigits : (Nat.toDigits 10 n).all Char.isDigit = true :=
    List.all_eq_true.mpr fun c hc => isDigit_of_mem_toDigits hc
  have hvalue := digitsValue_toDigits n
  have hne : Nat.toDigits 10 n ≠ [] := Nat.toDigits_ne_nil
  generalize Nat.toDigits 10 n = digits at hchars hdigits hvalue hne
  unfold natural?
  rw [hchars]
  split
  · -- a digit is no sign
    simp at hdigits
  · dsimp only
    rw [hdigits, hvalue, if_pos h]
    simp [hne]

end TerseQuery.Text
