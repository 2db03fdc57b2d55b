import Mathlib.Data.Bool.AllAny
import TerseQuery.Proofs.Sql.Literals
import TerseQuery.Proofs.Sql.Reading
import TerseQuery.Token

/-!
# Spelling words

How a name, a comparison or an operator and a value have to be spelled for sorting to find again what was
meant.

* `sigil_append`, `word_append`: a sigil is found again before a word that starts with a word character;
* `operator?_text`: no operator is found in a predicate, although comparisons and operators share `=`;
* `operator?_marked`, `splitAssignment_marked`: an operator is found where it was put, whatever the value;
* `Spelled.ofWord_text`: a predicate is read from its text.
-/

namespace TerseQuery

open Text

/-- A word starts with a word character. -/
def StartsWord (s : String) : Prop :=
  ∃ c rest, s.toList = c :: rest ∧ isWordChar c = true

/-- A name of a table or a column, with points inside only. -/
structure IsName (name : String) : Prop where
  chars : ∀ c ∈ name.toList, isWordChar c = true ∨ c = '.'
  starts : StartsWord name
  ends : ∃ before c, name.toList = before ++ [c] ∧ isWordChar c = true

theorem startsWord_iff {s : String} : StartsWord s ↔ s.toList.head?.any isWordChar = true := by
  unfold StartsWord
  cases s.toList with
  | nil => simp
  | cons c rest => simp

instance {s : String} : Decidable (StartsWord s) := decidable_of_iff _ startsWord_iff.symm

theorem isName_iff {name : String} :
    IsName name ↔ name.toList.all (fun c => isWordChar c = true ∨ c = '.') = true ∧ StartsWord name ∧
      name.toList.getLast?.any isWordChar = true := by
  constructor
  · rintro ⟨hchars, hstarts, before, c, hname, hc⟩
    exact ⟨List.all_iff_forall_prop.mpr hchars, hstarts, by simp [hname, hc]⟩
  · rintro ⟨hchars, hstarts, hlast⟩
    obtain ⟨c, hget, hc⟩ := (Option.any_eq_true _ _).mp hlast
    obtain ⟨before, hname⟩ := List.getLast?_eq_some_iff.mp hget
    exact ⟨List.all_iff_forall_prop.mp hchars, hstarts, before, c, hname, hc⟩

instance {name : String} : Decidable (IsName name) := decidable_of_iff _ isName_iff.symm

theorem StartsWord.append {s : String} (h : StartsWord s) (rest : String) : StartsWord (s ++ rest) := by
  obtain ⟨c, tail, hs, hc⟩ := h
  exact ⟨c, tail ++ rest.toList, by rw [String.toList_append, hs]; rfl, hc⟩

theorem StartsWord.ne_empty {s : String} (h : StartsWord s) : s ≠ "" := by
  obtain ⟨c, rest, hs, -⟩ := h
  rintro rfl
  cases hs

namespace IsName

variable {name : String}

theorem isIdentifier (h : IsName name) : Sql.isIdentifier name = true :=
  Sql.isIdentifier_iff.mpr ⟨h.starts.ne_empty, h.chars⟩

theorem ne_equals (h : IsName name) : ∀ c ∈ name.toList, c ≠ '=' := by
  intro c hc
  exact Sql.ne_of_isIdentifier h.isIdentifier hc (by decide) (by decide)

end IsName

namespace Token

/-! ## Sigils -/

section
variable {s w : String}

theorem sigil_append (hs : ∀ c ∈ s.toList, isWordChar c = false) (hw : StartsWord w) :
    sigil (s ++ w) = s := by
  obtain ⟨c, rest, hcs, hc⟩ := hw
  have hall : ∀ d ∈ s.toList, (!isWordChar d) = true := fun d hd => by simp [hs d hd]
  rw [sigil, String.toList_append, List.takeWhile_append_of_pos hall, hcs]
  simp [hc]

theorem word_append (hs : ∀ c ∈ s.toList, isWordChar c = false) (hw : StartsWord w) :
    word (s ++ w) = w := by
  obtain ⟨c, rest, hcs, hc⟩ := hw
  have hall : ∀ d ∈ s.toList, (!isWordChar d) = true := fun d hd => by simp [hs d hd]
  rw [word, String.toList_append, List.dropWhile_append_of_pos hall, hcs]
  rw [List.dropWhile_cons_of_neg (by simp [hc]), ← hcs, String.ofList_toList]

end

/-! ## Operators -/

theorem operatorFrom_eq_none {cs : List Char} (h : '=' ∉ cs) (run : List Char) :
    operatorFrom run cs = none := by
  induction cs generalizing run with
  | nil => rfl
  | cons c rest ih =>
    obtain ⟨hc, hrest⟩ := not_or.mp (List.mem_cons.not.mp h)
    unfold operatorFrom
    split
    · exact ih hrest _
    · rw [if_neg fun hfound => hc hfound.1.symm]
      exact ih hrest _

theorem operator?_eq_none {s : String} (h : '=' ∉ s.toList) : operator? s = none := by
  rw [operator?, operatorFrom_eq_none h]
  rfl

/-- The search starts afresh after a word character. -/
theorem operatorFrom_append {before : List Char} (hbefore : ∀ c ∈ before, c ≠ '=') {c : Char}
    (hc : isWordChar c = true) (run rest : List Char) :
    operatorFrom run (before ++ c :: rest) = operatorFrom [] rest := by
  induction before generalizing run with
  | nil => rw [List.nil_append, operatorFrom, if_pos hc]
  | cons d before ih =>
    have hd : d ≠ '=' := hbefore d List.mem_cons_self
    have hrest := ih fun e he => hbefore e (List.mem_cons_of_mem _ he)
    rw [List.cons_append, operatorFrom]
    split
    · exact hrest _
    · rw [if_neg fun hfound => hd hfound.1]
      exact hrest _

theorem operator?_append {name : String} (h : IsName name) (rest : String) :
    operator? (name ++ rest) = (operatorFrom [] rest.toList).map String.ofList := by
  obtain ⟨before, c, hname, hc⟩ := h.ends
  have hbefore : ∀ d ∈ before, d ≠ '=' := fun d hd => h.ne_equals d (by simp [hname, hd])
  rw [operator?, String.toList_append, hname, List.append_assoc, List.singleton_append,
    operatorFrom_append hbefore hc]

/-- A comparison is no operator, and none is completed by what follows it. -/
theorem operatorFrom_comparison (comparison : Sql.Comparison) {value : List Char} (h : '=' ∉ value) :
    operatorFrom [] (comparison.symbol.toList ++ value) = none := by
  have hnone := operatorFrom_eq_none h
  have hword : isWordChar '<' = false ∧ isWordChar '>' = false ∧ isWordChar '!' = false ∧
      isWordChar '=' = false := by decide
  cases comparison <;>
    simp [Sql.Comparison.symbol, operatorFrom, hword, hnone, comparisons]

/-- An operator of two characters stands where it begins. -/
theorem operatorFrom_sign {sign : Char} (hword : isWordChar sign = false) (hne : sign ≠ '=')
    (hcomparison : [sign, '='] ∉ comparisons) (value : List Char) :
    operatorFrom [] (sign :: '=' :: value) = some [sign, '='] := by
  have hequals : isWordChar '=' = false := by decide
  simp [operatorFrom, hword, hne, hequals, hcomparison]

/-- No operator is found in a predicate. -/
theorem operator?_text {p : Sql.Predicate} (hcolumn : IsName p.column) (hvalue : '=' ∉ p.value.toList) :
    operator? p.text = none := by
  rw [Sql.Predicate.text, String.append_assoc, operator?_append hcolumn, String.toList_append,
    operatorFrom_comparison _ hvalue]
  rfl

end Token

/-! ## Marked words -/

/-- The operators that ask for a kind are a sign and `=`. -/
theorem QueryKind.exists_sign {symbol : String} (h : QueryKind.ofOperator symbol ≠ .undetermined) :
    ∃ sign, symbol = String.ofList [sign, '='] ∧ isWordChar sign = false ∧ sign ≠ '=' ∧
      [sign, '='] ∉ Token.comparisons := by
  have hmem : symbol ∈ [insertOperator, deleteOperator] ++ updateOperators := by
    unfold ofOperator at h
    split at h
    · simp_all
    · split at h
      · simp_all
      · split at h
        · simp_all
        · exact absurd rfl h
  have hall : ∀ symbol ∈ [insertOperator, deleteOperator] ++ updateOperators,
      ['.', '~', '+', '-', '*', '/', '%', ':'].any (symbol = String.ofList [·, '=']) = true := by
    decide
  have hsigns : ∀ sign ∈ ['.', '~', '+', '-', '*', '/', '%', ':'],
      isWordChar sign = false ∧ sign ≠ '=' ∧ [sign, '='] ∉ Token.comparisons :=
    List.all_iff_forall_prop.mp (by decide)
  obtain ⟨sign, hsign, hsymbol⟩ := List.any_iff_exists_prop.mp (hall symbol hmem)
  exact ⟨sign, hsymbol, hsigns sign hsign⟩

section
variable {column symbol : String}

theorem Token.operator?_marked (hcolumn : IsName column)
    (hsymbol : QueryKind.ofOperator symbol ≠ .undetermined) (value : String) :
    operator? (column ++ symbol ++ value) = some symbol := by
  obtain ⟨sign, rfl, hword, hne, hcomparison⟩ := QueryKind.exists_sign hsymbol
  rw [String.append_assoc, operator?_append hcolumn, String.toList_append, String.toList_ofList]
  rw [List.cons_append, List.cons_append, List.nil_append, operatorFrom_sign hword hne hcomparison]
  rfl

theorem Text.cut?_sign {sign : Char} (hne : sign ≠ '=') {before : List Char}
    (hbefore : ∀ c ∈ before, c ≠ '=') (value : List Char) :
    cut? [sign, '='] (before ++ sign :: '=' :: value) = some (before, value) := by
  induction before with
  | nil => simp [cut?]
  | cons c before ih =>
    have hrest := ih fun d hd => hbefore d (List.mem_cons_of_mem _ hd)
    -- the mark cannot begin here: its `=` would fall on the name or on its own sign
    have hnot : [sign, '='].isPrefixOf (c :: (before ++ sign :: '=' :: value)) = false := by
      cases before with
      | nil => simp [List.isPrefixOf, hne.symm]
      | cons d before =>
        have hd : d ≠ '=' := hbefore d (by simp)
        simp [List.isPrefixOf, hd.symm]
    rw [List.cons_append, cut?, hnot]
    simp [hrest]

theorem Sql.splitAssignment_marked (hcolumn : isIdentifier column = true)
    (hsymbol : QueryKind.ofOperator symbol ≠ .undetermined) (value : String) :
    splitAssignment (column ++ symbol ++ value) symbol = .ok (column, value) := by
  obtain ⟨sign, rfl, -, hne, -⟩ := QueryKind.exists_sign hsymbol
  have hcut : cutAt? (column ++ String.ofList [sign, '='] ++ value) (String.ofList [sign, '=']) =
      some (column, value) := by
    have hequals : ∀ c ∈ column.toList, c ≠ '=' := fun c hc =>
      ne_of_isIdentifier hcolumn hc (by decide) (by decide)
    simp [cutAt?, cut?_sign hne hequals]
  rw [splitAssignment, hcut]
  exact if_pos hcolumn

end

/-! ## Predicates -/

namespace Sql.Predicate

/-- A predicate that can be spelled as a word and says something. -/
structure Spelled (p : Predicate) : Prop where
  column : IsName p.column
  value : '=' ∉ p.value.toList
  /-- Otherwise the word would be read with `<>`. -/
  angle : p.comparison = .below → p.value.toList.head? ≠ some '>'
  /-- Nothing is before or after the missing value. -/
  missing : p.value.toLower = "null" → p.comparison ∈ [.equals, .equalsTwice, .differs, .differsAngled]

variable {p : Predicate}

theorem Spelled.isEquality_or_isNegation (h : p.Spelled) (hnull : isNull p.value = true) :
    p.comparison.isEquality = true ∨ p.comparison.isNegation = true := by
  have hmem := h.missing (isNull_iff.mp hnull)
  revert hmem
  cases p.comparison <;> decide

theorem Spelled.leading (h : p.Spelled) :
    Comparison.leading? (p.comparison.symbol ++ p.value).toList = some p.comparison := by
  have hvalue := h.value
  have hangle := h.angle
  rw [String.toList_append]
  generalize p.value.toList = value at hvalue hangle
  cases value with
  | nil => cases p.comparison <;> decide
  | cons c rest =>
    have hequals : '=' ≠ c := fun heq => hvalue (heq ▸ List.mem_cons_self)
    cases hcomparison : p.comparison with
    | below =>
      have hgreater : '>' ≠ c := fun heq => hangle hcomparison (by rw [← heq]; rfl)
      simp [Comparison.leading?, Comparison.all, Comparison.symbol, List.isPrefixOf, hequals, hgreater]
    | _ =>
      simp [Comparison.leading?, Comparison.all, Comparison.symbol, List.isPrefixOf, hequals]

theorem Spelled.ofWord_text (h : p.Spelled) : ofWord p.text = .ok p :=
  ofWord_eq_ok.mpr ⟨h.column.isIdentifier, rfl, h.leading⟩

end Sql.Predicate

end TerseQuery
