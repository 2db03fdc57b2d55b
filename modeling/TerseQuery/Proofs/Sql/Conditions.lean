import Mathlib.Data.Bool.AllAny
import TerseQuery.Proofs.Sql.Literals
import TerseQuery.Proofs.Sql.Reading
import TerseQuery.Proofs.Sql.Splitting

/-!
# Conditions as text

* `conditionText`: what a predicate is in SQL, with the signs of SQL;
* `says_of_ofPredicate`: the condition made of a predicate, in each case;
* `toSql_of_ofPredicate`, `exists_condition`: it is that text;
* `passes_conditionText`: no connective begins in a condition whose value becomes a literal.
-/

namespace TerseQuery.Sql

/-- How a comparison is written in SQL, which has one sign for equality and one for its negation. -/
def signText : Comparison → String
  | .equals | .equalsTwice => "="
  | .differs | .differsAngled => "<>"
  | .atMost => "<="
  | .atLeast => ">="
  | .below => "<"
  | .above => ">"

/-- A predicate in SQL. -/
def conditionText (twoValued : Bool) (p : Predicate) : String :=
  if p.value.toLower = "null" then
    if signText p.comparison = "=" then p.column ++ " IS NULL" else p.column ++ " IS NOT NULL"
  else if signText p.comparison = "<>" ∧ twoValued = true then
    "(" ++ p.column ++ " <> " ++ literal p.value ++ " OR " ++ p.column ++ " IS NULL)"
  else p.column ++ " " ++ signText p.comparison ++ " " ++ literal p.value

theorem sqlSymbol_eq (comparison : Comparison) : comparison.sqlSymbol = signText comparison := by
  cases comparison <;> rfl

theorem isEquality_iff {comparison : Comparison} :
    comparison.isEquality = true ↔ signText comparison = "=" := by
  cases comparison <;> decide

theorem isNegation_iff {comparison : Comparison} :
    comparison.isNegation = true ↔ signText comparison = "<>" := by
  cases comparison <;> decide

/-- The condition that a predicate is, by its value and its comparison. -/
inductive Predicate.Says (twoValued : Bool) (p : Predicate) : Condition → Prop where
  | missing (hnull : isNull p.value = true) (hequality : p.comparison.isEquality = true) :
      Says twoValued p (.isNull p.column)
  | given (hnull : isNull p.value = true) (hequality : p.comparison.isEquality = false) :
      Says twoValued p (.isNotNull p.column)
  | differs (hnull : isNull p.value = false) (hnegation : (p.comparison.isNegation && twoValued) = true) :
      Says twoValued p (.differsOrNull p.column (literal p.value))
  | compares (hnull : isNull p.value = false) (hnegation : (p.comparison.isNegation && twoValued) = false) :
      Says twoValued p (.compares p.column p.comparison (literal p.value))

theorem says_of_ofPredicate {twoValued : Bool} {p : Predicate} {c : Condition}
    (h : Condition.ofPredicate twoValued p = .ok c) : p.Says twoValued c := by
  unfold Condition.ofPredicate at h
  split at h
  · rename_i hnull
    split at h
    · rename_i hequality
      cases h
      exact .missing hnull hequality
    · rename_i hequality
      split at h
      · cases h
        exact .given hnull (Bool.eq_false_iff.mpr hequality)
      · cases h
  · rename_i hnull
    split at h
    · rename_i hnegation
      cases h
      exact .differs (Bool.eq_false_iff.mpr hnull) hnegation
    · rename_i hnegation
      cases h
      exact .compares (Bool.eq_false_iff.mpr hnull) (Bool.eq_false_iff.mpr hnegation)

theorem toSql_of_ofPredicate {twoValued : Bool} {p : Predicate} {c : Condition}
    (h : Condition.ofPredicate twoValued p = .ok c) : c.toSql = conditionText twoValued p := by
  unfold conditionText
  simp only [← isNull_iff, ← isEquality_iff, ← isNegation_iff, ← Bool.and_eq_true]
  cases says_of_ofPredicate h with
  | missing hnull hequality => simp only [Condition.toSql, hnull, hequality, ↓reduceIte]
  | given hnull hequality => simp only [Condition.toSql, hnull, hequality, Bool.false_eq_true, ↓reduceIte]
  | differs hnull hnegation =>
    simp only [Condition.toSql, hnull, hnegation, Bool.false_eq_true, ↓reduceIte]
  | compares hnull hnegation =>
    simp only [Condition.toSql, hnull, hnegation, sqlSymbol_eq, Bool.false_eq_true, ↓reduceIte]

/-- A predicate is a condition unless it compares the missing value with another operator. -/
theorem exists_condition (twoValued : Bool) {p : Predicate}
    (h : isNull p.value = true → p.comparison.isEquality = true ∨ p.comparison.isNegation = true) :
    ∃ c, Condition.ofPredicate twoValued p = .ok c ∧ c.toSql = conditionText twoValued p := by
  have hok : ∃ c, Condition.ofPredicate twoValued p = .ok c := by
    unfold Condition.ofPredicate
    split
    · rename_i hnull
      split
      · exact ⟨_, rfl⟩
      · rename_i hequality
        rw [if_pos ((h hnull).resolve_left hequality)]
        exact ⟨_, rfl⟩
    · split
      · exact ⟨_, rfl⟩
      · exact ⟨_, rfl⟩
  obtain ⟨c, hc⟩ := hok
  exact ⟨c, hc, toSql_of_ofPredicate hc⟩

/-! ## Characters that leave the place as it is -/

/-- A character that is no quote or parenthesis. -/
def Still (c : Char) : Prop :=
  c ≠ '\'' ∧ c ≠ '(' ∧ c ≠ ')'

/-- A character that is no space, quote or parenthesis. -/
def Plain (c : Char) : Prop :=
  c ≠ ' ' ∧ Still c

instance (c : Char) : Decidable (Still c) := inferInstanceAs (Decidable (_ ∧ _))

instance (c : Char) : Decidable (Plain c) := inferInstanceAs (Decidable (_ ∧ _))

theorem next_of_still {n : Nesting} {c : Char} (h : Still c) : n.next c = n := by
  obtain ⟨hquote, hopen, hclose⟩ := h
  simp [Nesting.next, hquote, hopen, hclose]

theorem plain_of_isIdentifier {name : String} (h : isIdentifier name = true) :
    ∀ c ∈ name.toList, Plain c := by
  intro c hc
  have hne : ∀ d, Text.isWordChar d = false → d ≠ '.' → c ≠ d := fun d =>
    ne_of_isIdentifier h hc
  exact ⟨hne _ (by decide) (by decide), hne _ (by decide) (by decide), hne _ (by decide) (by decide),
    hne _ (by decide) (by decide)⟩

theorem numeralChar_plain {c : Char} (h : Text.NumeralChar c) : Plain c ∧ c ≠ 'A' ∧ c ≠ 'O' := by
  have hne : ∀ d : Char, d.isDigit = false → d ∉ Text.numeralSigns → c ≠ d := by
    rintro d hdigit hsign rfl
    rcases h with hc | hc
    · rw [hdigit] at hc
      cases hc
    · exact hsign hc
  exact ⟨⟨hne _ (by decide) (by decide), hne _ (by decide) (by decide), hne _ (by decide) (by decide),
    hne _ (by decide) (by decide)⟩, hne _ (by decide) (by decide), hne _ (by decide) (by decide)⟩

/-! ## Parts of conditions -/

section
variable {k : Connective} {n n' : Nesting}

theorem toSql_eq_cons (k : Connective) :
    ∃ s tail, k.toSql.toList = ' ' :: s :: tail ∧ (s = 'A' ∨ s = 'O') := by
  cases k with
  | all => exact ⟨'A', _, rfl, .inl rfl⟩
  | any => exact ⟨'O', _, rfl, .inr rfl⟩

theorem passes_char {c : Char} (h : c ≠ ' ') : Passes k.toSql.toList n [c] (n.next c) := by
  obtain ⟨s, tail, hmark, -⟩ := toSql_eq_cons k
  rw [hmark]
  exact Passes.char (fun _ => by simpa using h.symm) (by simp)

theorem passes_plain {part : List Char} (h : ∀ c ∈ part, Plain c) :
    Passes k.toSql.toList n part n := by
  induction part with
  | nil => exact Passes.nil
  | cons c part ih =>
    have hc : Passes k.toSql.toList n [c] n := by
      have hpass := passes_char (k := k) (n := n) (h c List.mem_cons_self).1
      rwa [next_of_still (h c List.mem_cons_self).2] at hpass
    exact hc.cons (ih fun d hd => h d (List.mem_cons_of_mem _ hd))

/-- A space passes before a part that does not go on like a connective. -/
theorem passes_space {d : Char} {part : List Char} (hd : d ≠ 'A' ∧ d ≠ 'O')
    (h : Passes k.toSql.toList n (d :: part) n') :
    Passes k.toSql.toList n (' ' :: d :: part) n' := by
  obtain ⟨s, tail, hmark, hs⟩ := toSql_eq_cons k
  have hds : d ≠ s := by
    rcases hs with rfl | rfl
    · exact hd.1
    · exact hd.2
  have hnext : n.next ' ' = n := by simp [Nesting.next]
  exact Passes.before hmark hds (hnext.symm ▸ h)

theorem passes_word {d : Char} {part : List Char} (hd : d ≠ 'A' ∧ d ≠ 'O')
    (h : ∀ c ∈ d :: part, Plain c) : Passes k.toSql.toList n (' ' :: d :: part) n :=
  passes_space hd (passes_plain h)

/-- Inside quotes or parentheses all passes that does not lead out of them. -/
theorem passes_within {cs : List Char} (hn : n.isOutermost = false) (h : ∀ c ∈ cs, n.next c = n) :
    Passes k.toSql.toList n cs n := by
  induction cs with
  | nil => exact Passes.nil
  | cons c cs ih =>
    have hmark : k.toSql.toList ≠ [] := by cases k <;> decide
    have hc : Passes k.toSql.toList n [c] (n.next c) :=
      Passes.char (fun hout => by rw [hn] at hout; cases hout) hmark
    rw [h c List.mem_cons_self] at hc
    exact hc.cons (ih fun d hd => h d (List.mem_cons_of_mem _ hd))

/-- Between the quotes of a string its own quotes are passed over, two at a time. -/
theorem passes_paired (hquoted : n.quoted = true) {inside : List Char} (h : QuotesPaired inside) :
    Passes k.toSql.toList n inside n := by
  induction h with
  | nil => exact Passes.nil
  | pair _ ih =>
    have hback : (n.next '\'').next '\'' = n := by simp [Nesting.next]
    have htwo := (passes_char (k := k) (n := n) (c := '\'') (by decide)).cons
      (passes_char (c := '\'') (by decide))
    rw [hback] at htwo
    exact htwo.append ih
  | @other c _ hc _ ih =>
    have hwithin : Passes k.toSql.toList n [c] n :=
      passes_within (by simp [Nesting.isOutermost, hquoted]) (by simp [Nesting.next, hquoted, hc])
    exact hwithin.cons ih

theorem passes_literal {s : String} (hn : n.quoted = false) (h : IsLiteral s) :
    Passes k.toSql.toList n (' ' :: s.toList) n := by
  rcases h with rfl | hnumber | ⟨inside, hs, hinside⟩
  · exact passes_word (by decide) (List.all_iff_forall_prop.mp (by decide))
  · have hchars := hnumber.numeralChar
    obtain ⟨d, part, hcs⟩ := List.exists_cons_of_ne_nil hnumber.ne_nil
    rw [hcs] at hchars ⊢
    exact passes_word (numeralChar_plain (hchars d List.mem_cons_self)).2
      fun c hc => (numeralChar_plain (hchars c hc)).1
  · rw [hs]
    apply passes_space (by decide)
    have hopen : n.next '\'' = ⟨true, n.depth⟩ := by simp [Nesting.next, hn]
    have hclose : Nesting.next ⟨true, n.depth⟩ '\'' = n := by
      cases n
      simp_all [Nesting.next]
    have hfirst := passes_char (k := k) (n := n) (c := '\'') (by decide)
    have hlast := passes_char (k := k) (n := ⟨true, n.depth⟩) (c := '\'') (by decide)
    rw [hopen] at hfirst
    rw [hclose] at hlast
    exact hfirst.cons ((passes_paired rfl hinside).append hlast)

end

/-! ## Whole conditions -/

section
variable {k : Connective} {n : Nesting}

theorem passes_is : Passes k.toSql.toList n " IS".toList n :=
  passes_word (by decide) (List.all_iff_forall_prop.mp (by decide))

theorem passes_null : Passes k.toSql.toList n " NULL".toList n :=
  passes_word (by decide) (List.all_iff_forall_prop.mp (by decide))

theorem passes_isNull : Passes k.toSql.toList n " IS NULL".toList n :=
  passes_is.append passes_null

theorem passes_isNotNull : Passes k.toSql.toList n " IS NOT NULL".toList n := by
  have hnot : Passes k.toSql.toList n " NOT".toList n :=
    passes_word (by decide) (List.all_iff_forall_prop.mp (by decide))
  exact passes_is.append (hnot.append passes_null)

end

theorem signText_plain (comparison : Comparison) :
    ∃ d part, (signText comparison).toList = d :: part ∧ (d ≠ 'A' ∧ d ≠ 'O') ∧ ∀ c ∈ d :: part, Plain c := by
  cases comparison <;> exact ⟨_, _, rfl, by decide, List.all_iff_forall_prop.mp (by decide)⟩

/-- No connective begins in a condition on a name whose value becomes a literal. -/
theorem passes_conditionText (k : Connective) (twoValued : Bool) {p : Predicate}
    (hcolumn : isIdentifier p.column = true) (hvalue : IsLiteral (literal p.value)) :
    Passes k.toSql.toList .outermost (conditionText twoValued p).toList .outermost := by
  have hname : ∀ n, Passes k.toSql.toList n p.column.toList n := fun n =>
    passes_plain (plain_of_isIdentifier hcolumn)
  unfold conditionText
  split
  · split
    · rw [String.toList_append]
      exact (hname _).append passes_isNull
    · rw [String.toList_append]
      exact (hname _).append passes_isNotNull
  · split
    · have hopen : Passes k.toSql.toList .outermost ['('] ⟨false, 1⟩ := passes_char (by decide)
      have hangled : Passes k.toSql.toList ⟨false, 1⟩ " <>".toList ⟨false, 1⟩ :=
        passes_word (by decide) (List.all_iff_forall_prop.mp (by decide))
      have hvalue := passes_literal (k := k) (n := ⟨false, 1⟩) rfl hvalue
      have hstill : ∀ c ∈ " OR ".toList, Still c := List.all_iff_forall_prop.mp (by decide)
      have hor : Passes k.toSql.toList ⟨false, 1⟩ " OR ".toList ⟨false, 1⟩ :=
        passes_within (by decide) fun c hc => next_of_still (hstill c hc)
      have hclose : Passes k.toSql.toList ⟨false, 1⟩ [')'] .outermost := passes_char (by decide)
      have hall := hopen.append ((hname _).append (hangled.append (hvalue.append (hor.append
        ((hname _).append (passes_isNull.append hclose))))))
      simpa using hall
    · obtain ⟨d, part, hsymbol, hd, hplain⟩ := signText_plain p.comparison
      simp only [String.toList_append, hsymbol, List.append_assoc]
      exact (hname _).append ((passes_word hd hplain).append (passes_literal rfl hvalue))

end TerseQuery.Sql
