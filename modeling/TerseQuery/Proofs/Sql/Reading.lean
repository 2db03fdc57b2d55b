import Mathlib.Data.Bool.AllAny
import TerseQuery.Proofs.Failure
import TerseQuery.Sql.Synthesis

/-!
# How words are read

A word is cut at its first comparison or at its operator, with a name before it.

* `ofWord_eq_ok`: a predicate is read exactly from its own text, with the longest comparison that fits;
* `splitAssignment_eq_ok`: a word cut at an operator is the name, the operator and the value.
-/

namespace TerseQuery

namespace Sql

/-! ## Names -/

/-- The characters that comparisons start with. -/
def comparisonStarts : List Char := ['<', '>', '!', '=']

theorem isIdentifier_iff {name : String} :
    isIdentifier name = true ↔
      name ≠ "" ∧ ∀ c ∈ name.toList, Text.isWordChar c = true ∨ c = '.' := by
  simp [isIdentifier]

/-- No character of a name is one that is neither a word character nor a point. -/
theorem ne_of_isIdentifier {name : String} (h : isIdentifier name = true) {c d : Char}
    (hc : c ∈ name.toList) (hd : Text.isWordChar d = false) (hpoint : d ≠ '.') : c ≠ d := by
  rintro rfl
  rcases (isIdentifier_iff.mp h).2 c hc with hword | hdot
  · rw [hd] at hword
    cases hword
  · exact hpoint hdot

theorem not_start_of_isIdentifier {name : String} (h : isIdentifier name = true) :
    ∀ c ∈ name.toList, c ∉ comparisonStarts := by
  intro c hc hstart
  have hword : ∀ d ∈ comparisonStarts, Text.isWordChar d = false ∧ d ≠ '.' :=
    List.all_iff_forall_prop.mp (by decide)
  obtain ⟨hd, hpoint⟩ := hword c hstart
  exact ne_of_isIdentifier h hc hd hpoint rfl

/-! ## Predicates -/

theorem symbol_eq_cons (comparison : Comparison) :
    ∃ start tail, comparison.symbol.toList = start :: tail ∧ start ∈ comparisonStarts := by
  cases comparison <;> exact ⟨_, _, rfl, by decide⟩

theorem leading?_eq_none {c : Char} (h : c ∉ comparisonStarts) (rest : List Char) :
    Comparison.leading? (c :: rest) = none := by
  unfold Comparison.leading?
  rw [List.find?_eq_none]
  intro comparison _ hbegins
  obtain ⟨start, tail, hsymbol, hstart⟩ := symbol_eq_cons comparison
  rw [hsymbol, List.isPrefixOf_iff_prefix, List.cons_prefix_cons] at hbegins
  exact h (hbegins.1 ▸ hstart)

theorem symbol_prefix_of_leading? {cs : List Char} {comparison : Comparison}
    (h : Comparison.leading? cs = some comparison) : comparison.symbol.toList <+: cs := by
  have := List.find?_some h
  exact List.isPrefixOf_iff_prefix.mp this

/-- The first comparison of a text is where it stands, and the longest there. -/
theorem append_of_firstComparison? {cs before after : List Char} {comparison : Comparison}
    (h : firstComparison? cs = some (before, comparison, after)) :
    cs = before ++ (comparison.symbol.toList ++ after) ∧
      Comparison.leading? (comparison.symbol.toList ++ after) = some comparison := by
  induction cs generalizing before with
  | nil => simp [firstComparison?] at h
  | cons c rest ih =>
    unfold firstComparison? at h
    split at h
    · rename_i found hfound
      simp only [Option.some.injEq, Prod.mk.injEq] at h
      obtain ⟨rfl, rfl, rfl⟩ := h
      obtain ⟨tail, htail⟩ := symbol_prefix_of_leading? hfound
      have hdrop : (c :: rest).drop found.symbol.length = tail := by
        rw [← htail, ← String.length_toList, List.drop_left]
      rw [hdrop, htail]
      exact ⟨rfl, hfound⟩
    · simp only [Option.map_eq_some_iff, Prod.mk.injEq] at h
      obtain ⟨⟨inner, found, outer⟩, hparts, rfl, rfl, rfl⟩ := h
      obtain ⟨hcs, hleading⟩ := ih hparts
      exact ⟨by rw [hcs]; rfl, hleading⟩

theorem firstComparison?_append {before after : List Char} {comparison : Comparison}
    (hbefore : ∀ c ∈ before, c ∉ comparisonStarts)
    (h : Comparison.leading? (comparison.symbol.toList ++ after) = some comparison) :
    firstComparison? (before ++ (comparison.symbol.toList ++ after)) =
      some (before, comparison, after) := by
  induction before with
  | nil =>
    have hdrop : (comparison.symbol.toList ++ after).drop comparison.symbol.length = after := by
      rw [← String.length_toList, List.drop_left]
    obtain ⟨start, tail, hsymbol, -⟩ := symbol_eq_cons comparison
    rw [List.nil_append]
    cases hcs : comparison.symbol.toList ++ after with
    | nil => simp [hsymbol] at hcs
    | cons c rest =>
      rw [firstComparison?, ← hcs, h]
      simp only [hdrop]
  | cons c before ih =>
    have hrest := ih fun d hd => hbefore d (List.mem_cons_of_mem _ hd)
    rw [List.cons_append, firstComparison?, leading?_eq_none (hbefore c List.mem_cons_self)]
    simp [hrest]

namespace Predicate

/-- A word is the text of a predicate: a name, the longest comparison that stands after it, and a value. -/
structure Reads (word : String) (p : Predicate) : Prop where
  column : isIdentifier p.column = true
  text : word = p.text
  longest : Comparison.leading? (p.comparison.symbol ++ p.value).toList = some p.comparison

theorem ofWord_eq_ok {word : String} {p : Predicate} : ofWord word = .ok p ↔ Reads word p := by
  unfold ofWord
  constructor
  · intro h
    split at h
    · cases h
    · rename_i before comparison after hparts
      dsimp only at h
      split at h
      · rename_i hname
        cases h
        obtain ⟨hcs, hleading⟩ := append_of_firstComparison? hparts
        refine ⟨hname, ?_, ?_⟩
        · rw [← String.toList_inj, hcs]
          simp [text]
        · simpa using hleading
      · cases h
  · rintro ⟨hname, rfl, hleading⟩
    have htext : p.text.toList = p.column.toList ++ (p.comparison.symbol.toList ++ p.value.toList) := by
      simp [text]
    rw [String.toList_append] at hleading
    rw [htext, firstComparison?_append (not_start_of_isIdentifier hname) hleading]
    simp [hname]

instance (word : String) (p : Predicate) : Decidable (Reads word p) :=
  decidable_of_iff (ofWord word = .ok p) ofWord_eq_ok

end Predicate

/-! ## Assignments -/

theorem splitAssignment_eq_ok {word symbol column value : String}
    (h : splitAssignment word symbol = .ok (column, value)) :
    isIdentifier column = true ∧ word = column ++ symbol ++ value := by
  unfold splitAssignment at h
  split at h
  · cases h
  · rename_i column' value' hcut
    split at h
    · rename_i hname
      cases h
      simp only [Text.cutAt?, Option.map_eq_some_iff, Prod.mk.injEq] at hcut
      obtain ⟨⟨before, after⟩, hcut, rfl, rfl⟩ := hcut
      refine ⟨hname, ?_⟩
      rw [← String.toList_inj, Text.append_of_cut? hcut]
      simp
    · cases h

end Sql

end TerseQuery
