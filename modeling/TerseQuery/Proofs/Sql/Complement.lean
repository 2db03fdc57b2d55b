import TerseQuery.Proofs.Sql.Evaluation
import TerseQuery.Proofs.Sql.Filters

/-!
# Negation as complement

In SQL a row that is not kept by a condition need not be kept by its negation: where a column is missing both
are unknown. Two-valued logic mends that, for a pair of a column and a value and for many pairs at once.

* `keeps_eq_not_keeps`: pairs negated and joined by `OR` keep the rows that the pairs joined by `AND` do not keep;
* `negation_complements`: the same of lines and the text of their clauses, for values that become literals;
* `negation_overlaps`: a value that does not, and a row that is kept by both clauses.
-/

namespace TerseQuery

namespace Sql

/-! ## Conditions made of pairs -/

/-- The column and the value of a predicate. -/
def Predicate.pair (p : Predicate) : String × String :=
  (p.column, p.value)

/-- A condition is made of a pair, with a comparison of some sort. -/
def MadeOf (sort : Comparison → Bool) (twoValued : Bool) (pair : String × String) (c : Condition) : Prop :=
  ∃ comparison, sort comparison = true ∧
    Condition.ofPredicate twoValued ⟨pair.1, comparison, pair.2⟩ = .ok c

/-- A value with quotes around it, if it has any, doubles those between them. -/
def Harmless (value : String) : Prop :=
  isQuoted value = true → QuotesPaired (between value)

theorem isProper_of_ofPredicate {twoValued : Bool} {p : Predicate} {c : Condition}
    (h : Condition.ofPredicate twoValued p = .ok c) (hcolumn : isIdentifier p.column = true)
    (hvalue : Harmless p.value) : c.IsProper := by
  have hliteral := isLiteral_of_paired hvalue
  cases says_of_ofPredicate h with
  | missing => exact hcolumn
  | given => exact hcolumn
  | differs => exact ⟨hcolumn, hliteral⟩
  | compares => exact ⟨hcolumn, hliteral⟩

section
variable {α : Type} (row : Row α) {twoValued : Bool} {pairs : List (String × String)}
  {negations equalities : List Condition}
  (hnegations : List.Forall₂ (MadeOf Comparison.isNegation true) pairs negations)
  (hequalities : List.Forall₂ (MadeOf Comparison.isEquality twoValued) pairs equalities)
include hnegations hequalities

theorem opposites_of_pairs : List.Forall₂ (fun t u => t = .holds ↔ u ≠ .holds)
    (negations.map (Condition.truth row)) (equalities.map (Condition.truth row)) := by
  induction hnegations generalizing equalities with
  | nil =>
    cases hequalities
    exact .nil
  | cons hc _ ih =>
    cases hequalities with
    | cons hd hrest =>
      obtain ⟨negation, hnegation, hc⟩ := hc
      obtain ⟨equality, hequality, hd⟩ := hd
      exact .cons (holds_of_negation_iff row hnegation hequality hc hd) (ih hrest)

/-- Pairs negated and joined by `OR` keep the rows that the pairs joined by `AND` do not keep. -/
theorem keeps_eq_not_keeps (hne : pairs ≠ []) :
    RowFilter.keeps row ⟨.any, negations⟩ = !RowFilter.keeps row ⟨.all, equalities⟩ := by
  have hnegated : negations.isEmpty = false := by
    rw [List.isEmpty_eq_false_iff, ← List.length_pos_iff, ← hnegations.length_eq]
    exact List.length_pos_iff.mpr hne
  have hequated : equalities.isEmpty = false := by
    rw [List.isEmpty_eq_false_iff, ← List.length_pos_iff, ← hequalities.length_eq]
    exact List.length_pos_iff.mpr hne
  have hjoined := Truth.joined_any_iff_not_all (opposites_of_pairs row hnegations hequalities)
  rw [RowFilter.keeps, RowFilter.keeps, hnegated, hequated, Bool.false_or, Bool.false_or, Bool.eq_iff_iff,
    beq_iff_eq, hjoined]
  simp

end

end Sql

/-! ## Lines -/

namespace Query

open Sql

/-- The filter words of a query are predicates on these pairs, in order, with comparisons of some sort. -/
def Compares (q : Query) (kind : QueryKind) (sort : Comparison → Bool) (pairs : List (String × String)) :
    Prop :=
  ∃ predicates, List.Forall₂ StatedBy (q.filterWords kind) predicates ∧
    (∀ p ∈ predicates, sort p.comparison = true) ∧ predicates.map Predicate.pair = pairs

/-- The filter of predicates on pairs has the conditions that are made of these. -/
theorem Compares.exists_rowFilter {q : Query} {kind : QueryKind} {sort : Comparison → Bool}
    {pairs : List (String × String)} (h : q.Compares kind sort pairs) (hq : q.Recorded)
    (hsort : ∀ comparison, sort comparison = true →
      comparison.isEquality = true ∨ comparison.isNegation = true) :
    ∃ conditions, q.rowFilter (marker? kind) = .ok ⟨q.connective, conditions⟩ ∧
      List.Forall₂ (MadeOf sort (q.hasOption "2v")) pairs conditions ∧
      ((∀ pair ∈ pairs, Harmless pair.2) → ∀ c ∈ conditions, c.IsProper) := by
  obtain ⟨predicates, hstated, hcomparisons, rfl⟩ := h
  obtain ⟨conditions, hrows, hconditions⟩ :=
    rowFilter_of_statedBy hq hstated fun p hp _ => hsort _ (hcomparisons p hp)
  refine ⟨conditions, hrows, ?_, ?_⟩
  · rw [List.forall₂_map_left_iff]
    have hboth := (List.forall₂_and_left _ _).mpr ⟨hcomparisons, hconditions⟩
    exact hboth.imp fun p c hpc => ⟨p.comparison, hpc⟩
  · intro hvalues c hc
    obtain ⟨p, hp, hok⟩ := exists_of_forall₂_right hconditions hc
    obtain ⟨word, -, hword⟩ := exists_of_forall₂_right hstated hp
    exact isProper_of_ofPredicate hok hword.isIdentifier
      (hvalues p.pair (List.mem_map_of_mem hp))

/-- A line that negates pairs, with two-valued logic and its conditions joined by `OR`, and a line that states
the same pairs, with its conditions joined by `AND`, have clauses that keep each row once, if the values become
literals. -/
theorem negation_complements (leader leader' : String) (activeTable activeTable' : Option String)
    (registry registry' : OptionRegistry) (tokens tokens' : List String) {kind kind' : QueryKind}
    {pairs : List (String × String)} :
    let negating := (sortLine leader activeTable registry tokens).1
    let stating := (sortLine leader' activeTable' registry' tokens').1
    pairs ≠ [] → negating.Compares kind Comparison.isNegation pairs →
      stating.Compares kind' Comparison.isEquality pairs → negating.hasOption "2v" = true →
      negating.hasOption "o" = true → stating.hasOption "o" = false →
      ∃ negated stated, negating.rowFilter (marker? kind) = .ok negated ∧
        stating.rowFilter (marker? kind') = .ok stated ∧
        ((∀ pair ∈ pairs, Harmless pair.2) → ∀ {α : Type} (row : Row α),
          ∃ kept, row.kept? negated.toSql = some kept ∧ row.kept? stated.toSql = some !kept) := by
  intro negating stating hne hnegating hstating htwoValued hor hand
  obtain ⟨negations, hnegated, hnegations, hproper⟩ := hnegating.exists_rowFilter
    (Sorting.recorded_sortLine leader activeTable registry tokens) fun _ => .inr
  obtain ⟨equalities, hstated, hequalities, hproper'⟩ := hstating.exists_rowFilter
    (Sorting.recorded_sortLine leader' activeTable' registry' tokens') fun _ => .inl
  rw [htwoValued] at hnegations
  have hany : negating.connective = .any := by simp [connective, hor]
  have hall : stating.connective = .all := by simp [connective, hand]
  rw [hany] at hnegated
  rw [hall] at hstated
  refine ⟨_, _, hnegated, hstated, fun hvalues _ row => ⟨_, kept?_toSql row (hproper hvalues), ?_⟩⟩
  rw [kept?_toSql row (hproper' hvalues), keeps_eq_not_keeps row hnegations hequalities hne, Bool.not_not]

/-- An update and a deletion on a name with a quote, a missing value and a string in quotes. -/
theorem negation_complements_null :
    let pairs := [("name", "it's OR 1"), ("note", "null"), ("code", "'a''b'")]
    let negating := (sortLine "\\" none .fresh
      ["users", "-2v", "-o", "age:=1", "name!=it's OR 1", "note<>null", "code!='a''b'"]).1
    let stating := (sortLine "\\" none .fresh
      ["\\delete", "users", "name~=it's OR 1", "note==null", "code='a''b'"]).1
    negating.Compares .update Comparison.isNegation pairs ∧
      stating.Compares .delete Comparison.isEquality pairs ∧
      ∃ negated stated, negating.rowFilter (marker? .update) = .ok negated ∧
        stating.rowFilter (marker? .delete) = .ok stated ∧
        negated.toSql = " WHERE (name <> 'it''s OR 1' OR name IS NULL) OR note IS NOT NULL OR " ++
          "(code <> 'a''b' OR code IS NULL)" ∧
        stated.toSql = " WHERE name = 'it''s OR 1' AND note IS NULL AND code = 'a''b'" ∧
        ∀ {α : Type} (row : Row α),
          ∃ kept, row.kept? negated.toSql = some kept ∧ row.kept? stated.toSql = some !kept := by
  intro pairs negating stating
  -- the lines are sorted once, for all that is read off them
  have hlines : List.Forall₂ StatedBy (negating.filterWords .update)
        [⟨"name", .differs, "it's OR 1"⟩, ⟨"note", .differsAngled, "null"⟩, ⟨"code", .differs, "'a''b'"⟩] ∧
      List.Forall₂ StatedBy (stating.filterWords .delete)
        [⟨"name", .equals, "it's OR 1"⟩, ⟨"note", .equalsTwice, "null"⟩, ⟨"code", .equals, "'a''b'"⟩] ∧
      negating.hasOption "2v" = true ∧ negating.hasOption "o" = true ∧ stating.hasOption "o" = false ∧
      (negating.rowFilter (marker? .update)).map RowFilter.toSql =
        .ok (" WHERE (name <> 'it''s OR 1' OR name IS NULL) OR note IS NOT NULL OR " ++
          "(code <> 'a''b' OR code IS NULL)") ∧
      (stating.rowFilter (marker? .delete)).map RowFilter.toSql =
        .ok " WHERE name = 'it''s OR 1' AND note IS NULL AND code = 'a''b'" := by
    decide +kernel
  obtain ⟨hnegations, hequalities, htwoValued, hor, hand, hnegatedSql, hstatedSql⟩ := hlines
  have hnegating : negating.Compares .update Comparison.isNegation pairs :=
    ⟨_, hnegations, by decide, rfl⟩
  have hstating : stating.Compares .delete Comparison.isEquality pairs :=
    ⟨_, hequalities, by decide, rfl⟩
  have hvalues : ∀ pair ∈ pairs, Harmless pair.2 := by
    have hbetween : between "'a''b'" = ['a', '\'', '\'', 'b'] := by decide +kernel
    have hcode : QuotesPaired (between "'a''b'") :=
      hbetween ▸ .other (by decide) (.pair (.other (by decide) .nil))
    simp [pairs, hcode, Harmless, isQuoted]
  obtain ⟨negated, stated, hnegated, hstated, hkept⟩ :=
    negation_complements "\\" "\\" none none .fresh .fresh _ _ (by decide) hnegating hstating htwoValued hor hand
  rw [hnegated] at hnegatedSql
  rw [hstated] at hstatedSql
  exact ⟨hnegating, hstating, negated, stated, hnegated, hstated, Except.ok.inj hnegatedSql,
    Except.ok.inj hstatedSql, hkept hvalues⟩

/-- A value that ends its literal early and goes on as SQL. The row is kept by both clauses, since what the value
goes on with is a condition of its own in each. -/
theorem negation_overlaps :
    let pairs := [("name", "'x' OR id IS NULL OR name <> 'y'")]
    let negating := (sortLine "\\" none .fresh
      ["users", "-2v", "-o", "name!='x' OR id IS NULL OR name <> 'y'"]).1
    let stating := (sortLine "\\" none .fresh ["users", "name='x' OR id IS NULL OR name <> 'y'"]).1
    let row : Row String :=
      ⟨fun column => some (if column = "id" then "1" else "a"),
        fun _ value literal => if quote value = literal then .eq else .gt⟩
    negating.Compares .select Comparison.isNegation pairs ∧
      stating.Compares .select Comparison.isEquality pairs ∧
      negating.hasOption "2v" = true ∧ negating.hasOption "o" = true ∧ stating.hasOption "o" = false ∧
      ∃ negated stated, negating.rowFilter (marker? .select) = .ok negated ∧
        stating.rowFilter (marker? .select) = .ok stated ∧
        row.kept? negated.toSql = some true ∧ row.kept? stated.toSql = some true := by
  intro pairs negating stating row
  let negated : RowFilter := ⟨.any, [.differsOrNull "name" "'x' OR id IS NULL OR name <> 'y'"]⟩
  let stated : RowFilter := ⟨.all, [.compares "name" .equals "'x' OR id IS NULL OR name <> 'y'"]⟩
  have hlines : List.Forall₂ StatedBy (negating.filterWords .select)
        [⟨"name", .differs, "'x' OR id IS NULL OR name <> 'y'"⟩] ∧
      List.Forall₂ StatedBy (stating.filterWords .select)
        [⟨"name", .equals, "'x' OR id IS NULL OR name <> 'y'"⟩] ∧
      negating.hasOption "2v" = true ∧ negating.hasOption "o" = true ∧ stating.hasOption "o" = false ∧
      negating.rowFilter (marker? .select) = .ok negated ∧ stating.rowFilter (marker? .select) = .ok stated ∧
      row.kept? negated.toSql = some true ∧ row.kept? stated.toSql = some true := by
    decide +kernel
  obtain ⟨hnegations, hequalities, htwoValued, hor, hand, hrows⟩ := hlines
  exact ⟨⟨_, hnegations, by decide, rfl⟩, ⟨_, hequalities, by decide, rfl⟩, htwoValued, hor, hand,
    negated, stated, hrows⟩

end Query

end TerseQuery
