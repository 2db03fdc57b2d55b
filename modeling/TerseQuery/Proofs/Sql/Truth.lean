import TerseQuery.Proofs.Sql.Literals
import TerseQuery.Sql.Statement

/-!
# Three-valued truth

What conditions of SQL say of a row. A comparison with what is missing is unknown, `AND` and `OR` are Kleene's,
and whether a column is missing is always known. A row is kept if what is said of it holds.

* `joined_any_iff_not_all`: alternatives hold of the rows of which their opposites do not hold together;
* `holds_of_negation_iff`: under two-valued logic a pair and its negation are such opposites.
-/

namespace TerseQuery.Sql

/-- What a condition of SQL says of a row. -/
inductive Truth where
  | fails
  | unknown
  | holds
  deriving DecidableEq, Repr

namespace Truth

def ofBool : Bool → Truth
  | false => fails
  | true => holds

def and : Truth → Truth → Truth
  | fails, _ => fails
  | _, fails => fails
  | holds, holds => holds
  | _, _ => unknown

def or : Truth → Truth → Truth
  | holds, _ => holds
  | _, holds => holds
  | fails, fails => fails
  | _, _ => unknown

/-- What conditions say when they are joined. -/
def joined : Connective → List Truth → Truth
  | .all, ts => ts.foldr and holds
  | .any, ts => ts.foldr or fails

section
variable (s t u : Truth)

@[simp]
theorem holds_and : holds.and t = t := by cases t <;> rfl

@[simp]
theorem and_holds : t.and holds = t := by cases t <;> rfl

@[simp]
theorem fails_or : fails.or t = t := by cases t <;> rfl

@[simp]
theorem or_fails : t.or fails = t := by cases t <;> rfl

theorem and_assoc : (s.and t).and u = s.and (t.and u) := by cases s <;> cases t <;> cases u <;> rfl

theorem or_assoc : (s.or t).or u = s.or (t.or u) := by cases s <;> cases t <;> cases u <;> rfl

@[simp]
theorem and_eq_holds_iff : s.and t = holds ↔ s = holds ∧ t = holds := by cases s <;> cases t <;> decide

@[simp]
theorem or_eq_holds_iff : s.or t = holds ↔ s = holds ∨ t = holds := by cases s <;> cases t <;> decide

@[simp]
theorem ofBool_eq_holds_iff (b : Bool) : ofBool b = holds ↔ b = true := by cases b <;> decide

end

/-- De Morgan's law for conditions that hold where their opposites do not: unknown counts as not holding. -/
theorem joined_any_iff_not_all {ts us : List Truth}
    (h : List.Forall₂ (fun t u => t = holds ↔ u ≠ holds) ts us) :
    joined .any ts = holds ↔ joined .all us ≠ holds := by
  induction h with
  | nil => simp [joined]
  | cons htu _ ih =>
    simp only [joined, List.foldr_cons, or_eq_holds_iff, and_eq_holds_iff, ne_eq, not_and_or] at ih ⊢
    exact or_congr htu ih

end Truth

/-! ## Rows -/

/-- A row as conditions see it. A column may be missing its value, and a value that is there is before, at or
after each literal in the order of its column. -/
structure Row (α : Type) where
  value? : String → Option α
  order : String → α → String → Ordering

namespace Comparison

/-- Whether a comparison holds of a value that stands so to the literal. -/
def admits : Comparison → Ordering → Bool
  | atMost => Ordering.isLE
  | atLeast => Ordering.isGE
  | differs => Ordering.isNe
  | differsAngled => Ordering.isNe
  | equalsTwice => Ordering.isEq
  | equals => Ordering.isEq
  | below => Ordering.isLT
  | above => Ordering.isGT

theorem admits_of_isEquality {comparison : Comparison} (h : comparison.isEquality = true) :
    comparison.admits = Ordering.isEq := by
  cases comparison with
  | equals => rfl
  | equalsTwice => rfl
  | _ => cases h

theorem isNegation_and_isEquality (comparison : Comparison) :
    (comparison.isNegation && comparison.isEquality) = false := by
  cases comparison <;> rfl

end Comparison

namespace Row

variable {α : Type} (row : Row α)

def isMissing (column : String) : Bool :=
  (row.value? column).isNone

/-- What a comparison says. It is unknown where the column or the literal is missing. -/
def compares (column : String) (comparison : Comparison) (literal : String) : Truth :=
  match row.value? column with
  | none => .unknown
  | some value =>
    if literal = "NULL" then .unknown else .ofBool (comparison.admits (row.order column value literal))

end Row

/-- What a condition says of a row. -/
def Condition.truth {α : Type} (row : Row α) : Condition → Truth
  | .isNull column => .ofBool (row.isMissing column)
  | .isNotNull column => .ofBool (!row.isMissing column)
  | .compares column comparison literal => row.compares column comparison literal
  | .differsOrNull column literal =>
    (row.compares column .differs literal).or (.ofBool (row.isMissing column))

/-- Whether a filter keeps a row. Without conditions it keeps all rows. -/
def RowFilter.keeps {α : Type} (row : Row α) (f : RowFilter) : Bool :=
  f.conditions.isEmpty || Truth.joined f.connective (f.conditions.map (Condition.truth row)) == .holds

/-! ## Opposites -/

section
variable {α : Type} (row : Row α) {column value : String} {negation equality : Comparison}
  {twoValued : Bool} {c d : Condition}

/-- That a value differs from a literal or is missing is the opposite of its being equal to it. -/
theorem differsOrNull_opposite (hequality : equality.isEquality = true) {literal : String}
    (hliteral : literal ≠ "NULL") :
    (Condition.differsOrNull column literal).truth row = .holds ↔
      (Condition.compares column equality literal).truth row ≠ .holds := by
  have hadmits (o : Ordering) : Comparison.differs.admits o = !equality.admits o := by
    rw [Comparison.admits_of_isEquality hequality]
    cases o <;> rfl
  simp only [Condition.truth, Row.compares, Row.isMissing]
  cases row.value? column with
  | none => simp
  | some v => simp [hliteral, hadmits]

/-- Under two-valued logic what a pair says negated is the opposite of what it says. -/
theorem holds_of_negation_iff (hnegation : negation.isNegation = true)
    (hequality : equality.isEquality = true)
    (hc : Condition.ofPredicate true ⟨column, negation, value⟩ = .ok c)
    (hd : Condition.ofPredicate twoValued ⟨column, equality, value⟩ = .ok d) :
    c.truth row = .holds ↔ d.truth row ≠ .holds := by
  have hunequal : negation.isEquality = false := by
    simpa [hnegation] using negation.isNegation_and_isEquality
  have hplain : equality.isNegation = false := by
    simpa [hequality] using equality.isNegation_and_isEquality
  cases hnull : isNull value with
  | true =>
    simp only [Condition.ofPredicate, hnull, hunequal, hnegation, ↓reduceIte, Bool.false_eq_true] at hc
    simp only [Condition.ofPredicate, hnull, hequality, ↓reduceIte] at hd
    cases hc
    cases hd
    simp [Condition.truth]
  | false =>
    simp only [Condition.ofPredicate, hnull, hnegation, Bool.and_self, ↓reduceIte, Bool.false_eq_true] at hc
    simp only [Condition.ofPredicate, hnull, hplain, Bool.false_and, ↓reduceIte, Bool.false_eq_true] at hd
    cases hc
    cases hd
    exact differsOrNull_opposite row hequality (literal_ne_null hnull)

end

end TerseQuery.Sql
