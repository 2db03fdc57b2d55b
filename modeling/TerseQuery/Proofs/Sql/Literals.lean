import Mathlib.Data.Bool.AllAny
import TerseQuery.Proofs.Sql.Words
import TerseQuery.Proofs.Text.Numeral

/-!
# Literals

A literal of SQL is `NULL`, a number, or a string: a text in quotes whose own quotes are written twice. A value
becomes one, unless it has quotes around it already; then it is kept as it stands, whatever it holds.

* `afterLiteral?_append`: a reader of SQL finds the end of a literal where the literal ends;
* `isString_quote`: a text that is put in quotes is a string;
* `isLiteral_literal_iff`: the values that become literals;
* `literal_ends_early`: a value that ends its literal early and goes on as SQL.
-/

namespace TerseQuery.Sql

/-! ## Literals of SQL -/

/-- Each quote of a text is one of two that stand together. -/
inductive QuotesPaired : List Char → Prop where
  | nil : QuotesPaired []
  | pair {rest : List Char} (h : QuotesPaired rest) : QuotesPaired ('\'' :: '\'' :: rest)
  | other {c : Char} {rest : List Char} (hc : c ≠ '\'') (h : QuotesPaired rest) : QuotesPaired (c :: rest)

/-- A text in quotes, and each quote inside it written twice. -/
def IsString (s : String) : Prop :=
  ∃ inside, s.toList = '\'' :: (inside ++ ['\'']) ∧ QuotesPaired inside

def IsLiteral (s : String) : Prop :=
  s = "NULL" ∨ Text.IsNumber s.toList ∨ IsString s

/-! ## Reading literals -/

/-- What follows a string whose first quote is read. It ends at a quote, unless another one stands after it;
`ends` tells whether such a quote was read last. -/
def afterString? (ends : Bool) : List Char → Option (List Char)
  | [] => if ends then some [] else none
  | c :: rest =>
    if c = '\'' then afterString? (!ends) rest
    else if ends then some (c :: rest)
    else afterString? false rest

/-- The characters that come after literals in statements. -/
def literalEnds : List Char := [' ', ')', ',']

/-- What follows a literal. -/
def afterLiteral? (cs : List Char) : Option (List Char) :=
  if cs.head? = some '\'' then afterString? false cs.tail
  else some (cs.dropWhile fun c => !literalEnds.contains c)

theorem afterString?_paired {inside : List Char} (h : QuotesPaired inside) (rest : List Char) :
    afterString? false (inside ++ rest) = afterString? false rest := by
  induction h with
  | nil => rfl
  | pair _ ih => simpa [afterString?] using ih
  | other hc _ ih => simpa [afterString?, hc] using ih

section
variable {rest : List Char} (hrest : ∀ c ∈ rest.head?, c ∈ literalEnds)
include hrest

theorem afterString?_closed : afterString? true rest = some rest := by
  cases rest with
  | nil => rfl
  | cons c rest =>
    have hc : c ≠ '\'' := by
      rintro rfl
      exact absurd (hrest _ rfl) (by decide)
    rw [afterString?, if_neg hc, if_pos rfl]

theorem afterLiteral?_bare {cs : List Char} (hcs : cs ≠ []) (h : ∀ c ∈ cs, c ∉ literalEnds ∧ c ≠ '\'') :
    afterLiteral? (cs ++ rest) = some rest := by
  have hfirst : (cs ++ rest).head? ≠ some '\'' := by
    obtain ⟨c, cs, rfl⟩ := List.exists_cons_of_ne_nil hcs
    simpa using (h c List.mem_cons_self).2
  have hdrop : rest.dropWhile (fun c => !literalEnds.contains c) = rest := by
    cases rest with
    | nil => rfl
    | cons c rest => exact List.dropWhile_cons_of_neg (by simpa using hrest c rfl)
  rw [afterLiteral?, if_neg hfirst, List.dropWhile_append_of_pos, hdrop]
  intro c hc
  simpa using (h c hc).1

/-- Where a literal stands in a statement, a reader finds its end at its last character. -/
theorem afterLiteral?_append {s : String} (h : IsLiteral s) : afterLiteral? (s.toList ++ rest) = some rest := by
  rcases h with rfl | hnumber | ⟨inside, hs, hinside⟩
  · exact afterLiteral?_bare hrest (by decide) (List.all_iff_forall_prop.mp (by decide))
  · refine afterLiteral?_bare hrest hnumber.ne_nil fun c hc => ?_
    have hchar := hnumber.numeralChar c hc
    refine ⟨fun hend => ?_, hchar.ne (by decide) (by decide)⟩
    have hends : ∀ d ∈ literalEnds, d.isDigit = false ∧ d ∉ Text.numeralSigns := by
      simp [literalEnds, Text.numeralSigns, Char.isDigit]
    obtain ⟨hdigit, hsign⟩ := hends c hend
    exact hchar.ne hdigit hsign rfl
  · rw [hs, List.cons_append, afterLiteral?, List.head?_cons, if_pos rfl, List.tail_cons, List.append_assoc,
      afterString?_paired hinside]
    exact afterString?_closed hrest

end

/-! ## Values as literals -/

theorem isNull_iff {value : String} : isNull value = true ↔ value.toLower = "null" := by
  have hnull : Text.lower "null" = "null" := by decide +kernel
  rw [isNull, Text.equalFolded, beq_iff_eq, hnull]
  rfl

/-- Only the missing value is written as the missing value. -/
theorem literal_ne_null {value : String} (h : isNull value = false) : literal value ≠ "NULL" := by
  have hvalue : value ≠ "NULL" := by
    rintro rfl
    exact Bool.false_ne_true (h.symm.trans (isNull_iff.mpr (by decide +kernel)))
  have hquote : quote value ≠ "NULL" := by
    rw [← String.toList_inj.ne, quote, String.toList_ofList, List.cons_append]
    intro heq
    exact absurd (List.cons.inj heq).1 (by decide)
  rw [literal, h, if_neg Bool.false_ne_true]
  split
  · exact hvalue
  · split
    · exact hvalue
    · exact hquote

theorem quotesPaired_doubled (cs : List Char) :
    QuotesPaired (cs.flatMap fun c => if c = '\'' then ['\'', '\''] else [c]) := by
  induction cs with
  | nil => exact .nil
  | cons c cs ih =>
    rw [List.flatMap_cons]
    split
    · exact .pair ih
    · rename_i hc
      exact .other hc ih

theorem isString_quote (value : String) : IsString (quote value) :=
  ⟨_, String.toList_ofList, quotesPaired_doubled _⟩

/-- What stands between the quotes of a text that has quotes around it. -/
def between (s : String) : List Char :=
  s.toList.tail.dropLast

theorem toList_of_isQuoted {value : String} (h : isQuoted value = true) :
    value.toList = '\'' :: (between value ++ ['\'']) := by
  simp only [isQuoted, Bool.and_eq_true, decide_eq_true_eq, beq_iff_eq] at h
  obtain ⟨⟨hlength, hfirst⟩, hlast⟩ := h
  obtain ⟨before, hbefore⟩ := List.getLast?_eq_some_iff.mp hlast
  rw [between]
  rw [hbefore] at hlength hfirst ⊢
  cases before with
  | nil => simp at hlength
  | cons c inside =>
    obtain rfl : c = '\'' := by simpa using hfirst
    simp

theorem isString_iff {value : String} :
    IsString value ↔ isQuoted value = true ∧ QuotesPaired (between value) := by
  constructor
  · rintro ⟨inside, hvalue, hinside⟩
    have hbetween : between value = inside := by simp [between, hvalue]
    have hlast : value.toList.getLast? = some '\'' := by
      rw [hvalue, ← List.cons_append, List.getLast?_concat]
    refine ⟨?_, hbetween ▸ hinside⟩
    rw [isQuoted, hlast, hvalue]
    simp
  · rintro ⟨hquoted, hpaired⟩
    exact ⟨between value, toList_of_isQuoted hquoted, hpaired⟩

section
variable {value : String} (h : isQuoted value = true)
include h

theorem isNull_of_isQuoted : isNull value = false := by
  have hlower : value.toLower.toList = value.toList.map Char.toLower := String.toList_map
  rw [Bool.eq_false_iff, ne_eq, isNull_iff, ← String.toList_inj, hlower, toList_of_isQuoted h, List.map_cons]
  intro heq
  exact absurd (List.cons.inj heq).1 (by decide)

theorem isNumber_of_isQuoted : ¬ Text.IsNumber value.toList := by
  intro hnumber
  rw [toList_of_isQuoted h] at hnumber
  exact (hnumber.numeralChar '\'' List.mem_cons_self).ne (by decide) (by decide) rfl

/-- A value that has quotes around it is kept. -/
theorem literal_of_isQuoted : literal value = value := by
  have hnumeral : ¬ Text.isNumeral value = true := fun hnumeral =>
    isNumber_of_isQuoted h (Text.isNumber_of_isNumeral hnumeral)
  rw [literal, isNull_of_isQuoted h, if_neg Bool.false_ne_true, if_neg hnumeral, if_pos h]

theorem isLiteral_of_isQuoted : IsLiteral value ↔ QuotesPaired (between value) := by
  have hnull : value ≠ "NULL" := by
    rintro rfl
    revert h
    decide
  simp [IsLiteral, hnull, isNumber_of_isQuoted h, isString_iff, h]

end

theorem isLiteral_of_not_isQuoted {value : String} (h : ¬ isQuoted value = true) :
    IsLiteral (literal value) := by
  unfold literal
  split
  · exact .inl rfl
  · split
    · rename_i hnumeral
      exact .inr (.inl (Text.isNumber_of_isNumeral hnumeral))
    · exact .inr (.inr (isString_quote value))

theorem isLiteral_of_paired {value : String} (h : isQuoted value = true → QuotesPaired (between value)) :
    IsLiteral (literal value) := by
  by_cases hquoted : isQuoted value = true
  · rw [literal_of_isQuoted hquoted]
    exact (isLiteral_of_isQuoted hquoted).mpr (h hquoted)
  · exact isLiteral_of_not_isQuoted hquoted

/-- A value becomes a literal exactly if it has no quotes around it or the quotes between these are written
twice. Then whatever a statement puts after it is what a reader finds after it. -/
theorem isLiteral_literal_iff (value : String) :
    (IsLiteral (literal value) ↔ (isQuoted value = true → QuotesPaired (between value))) ∧
      (IsLiteral (literal value) → ∀ rest : List Char, (∀ c ∈ rest.head?, c ∈ literalEnds) →
        afterLiteral? ((literal value).toList ++ rest) = some rest) := by
  refine ⟨?_, fun hliteral rest hrest => afterLiteral?_append hrest hliteral⟩
  by_cases hquoted : isQuoted value = true
  · rw [literal_of_isQuoted hquoted, isLiteral_of_isQuoted hquoted]
    exact ⟨fun hpaired _ => hpaired, fun hpaired => hpaired hquoted⟩
  · exact ⟨fun _ h => absurd h hquoted, fun _ => isLiteral_of_not_isQuoted hquoted⟩

/-- A value with quotes around it and two more between them ends its literal at the first of these. What comes
after that is a condition of its own, under which all rows are deleted. -/
theorem literal_ends_early :
    let value := "'x' OR 1 OR 'y'"
    let q := (sortLine "\\" none .fresh ["\\delete", "users", "name=" ++ value]).1
    literal value = value ∧ ¬ IsLiteral (literal value) ∧
      afterLiteral? (literal value).toList = some " OR 1 OR 'y'".toList ∧
      q.compile = .ok ("DELETE FROM users WHERE name = 'x' OR 1 OR 'y'", .delete) := by
  intro value q
  have hkept : literal value = value := literal_of_isQuoted (by decide +kernel)
  have hafter : afterLiteral? (literal value).toList = some " OR 1 OR 'y'".toList := by decide +kernel
  refine ⟨hkept, fun hliteral => ?_, hafter, by decide +kernel⟩
  have hend : afterLiteral? ((literal value).toList ++ []) = some [] :=
    afterLiteral?_append (by simp) hliteral
  rw [List.append_nil, hafter] at hend
  exact absurd hend (by decide)

/-- A string in a string: its own quotes are doubled. -/
theorem isLiteral_literal_doubled :
    let value := "'it''s'"
    literal value = value ∧ isQuoted value = true ∧ QuotesPaired (between value) ∧ IsLiteral (literal value) ∧
      afterLiteral? ((literal value).toList ++ " AND id = 1".toList) = some " AND id = 1".toList := by
  intro value
  have hquoted : isQuoted value = true := by decide +kernel
  have hbetween : between value = ['i', 't', '\'', '\'', 's'] := by decide +kernel
  have hpaired : QuotesPaired (between value) := by
    rw [hbetween]
    exact .other (by decide) (.other (by decide) (.pair (.other (by decide) .nil)))
  have h := isLiteral_literal_iff value
  have hliteral := h.1.mpr fun _ => hpaired
  exact ⟨literal_of_isQuoted hquoted, hquoted, hpaired, hliteral, h.2 hliteral _ (by simp [literalEnds])⟩

end TerseQuery.Sql
