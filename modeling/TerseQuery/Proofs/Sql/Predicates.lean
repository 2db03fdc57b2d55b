import Mathlib.Data.List.Nodup
import Mathlib.Data.Set.Subsingleton
import TerseQuery.Proofs.Sql.Reading

/-!
# The grammar of predicates

A predicate is a column, a comparison and a value, one after the other in a word.

* `leading?_eq_some_iff`: of the comparisons that a text starts with, the longest is taken;
* `reads_iff_splits`: a word is read as a predicate just if it splits into its three parts as texts;
* `ofWord_grammar`: a word has at most one such split, and is refused as a whole if it has none.
-/

namespace TerseQuery.Sql

/-! ## The longest comparison -/

namespace Comparison

/-- How comparisons are written, each once. -/
def symbols : List String := ["<=", ">=", "!=", "<>", "==", "=", "<", ">"]

theorem mem_all (comparison : Comparison) : comparison ∈ all := by
  cases comparison <;> decide

theorem map_symbol_all : all.map symbol = symbols := rfl

theorem mem_symbols_iff {s : String} : s ∈ symbols ↔ ∃ comparison : Comparison, comparison.symbol = s := by
  rw [← map_symbol_all, List.mem_map]
  constructor
  · rintro ⟨comparison, -, hsymbol⟩
    exact ⟨comparison, hsymbol⟩
  · rintro ⟨comparison, hsymbol⟩
    exact ⟨comparison, mem_all comparison, hsymbol⟩

theorem symbol_injective : Function.Injective symbol := by
  intro a b heq
  have hnodup : (all.map symbol).Nodup := by decide
  exact List.inj_on_of_nodup_map hnodup (mem_all a) (mem_all b) heq

/-- No comparison is tried before a longer one. -/
theorem pairwise_length_all :
    all.Pairwise fun earlier later => later.symbol.length ≤ earlier.symbol.length := by
  decide

/-- The first comparison of the table that a text starts with is the longest that it starts with. -/
theorem length_le_of_leading? {cs : List Char} {comparison other : Comparison}
    (h : leading? cs = some comparison) (hother : other.symbol.toList <+: cs) :
    other.symbol.length ≤ comparison.symbol.length := by
  obtain ⟨-, earlier, later, hall, hearlier⟩ := List.find?_eq_some_iff_append.mp h
  have hpairs := pairwise_length_all
  have hmem := mem_all other
  rw [hall] at hpairs hmem
  rcases List.mem_append.mp hmem with hbefore | hmem
  · have hrefused := hearlier other hbefore
    rw [List.isPrefixOf_iff_prefix.mpr hother] at hrefused
    cases hrefused
  · rcases List.mem_cons.mp hmem with rfl | hafter
    · exact Nat.le_refl _
    · exact (List.pairwise_cons.mp (List.pairwise_append.mp hpairs).2.1).1 other hafter

theorem leading?_eq_some_iff {cs : List Char} {comparison : Comparison} :
    leading? cs = some comparison ↔
      comparison.symbol.toList <+: cs ∧
        ∀ other : Comparison, other.symbol.toList <+: cs → other.symbol.length ≤ comparison.symbol.length := by
  constructor
  · intro h
    exact ⟨symbol_prefix_of_leading? h, fun other hother => length_le_of_leading? h hother⟩
  · rintro ⟨hstarts, hlongest⟩
    obtain ⟨found, hfound⟩ : ∃ found, leading? cs = some found := by
      rw [← Option.isSome_iff_exists, leading?, List.find?_isSome]
      exact ⟨comparison, mem_all comparison, List.isPrefixOf_iff_prefix.mpr hstarts⟩
    -- both are longest, and a text has one prefix of each length
    have hlength : found.symbol.toList.length = comparison.symbol.toList.length := by
      rw [String.length_toList, String.length_toList]
      exact Nat.le_antisymm (hlongest found (symbol_prefix_of_leading? hfound))
        (length_le_of_leading? hfound hstarts)
    have hinitial : found.symbol.toList <+: comparison.symbol.toList :=
      List.prefix_of_prefix_length_le (symbol_prefix_of_leading? hfound) hstarts (Nat.le_of_eq hlength)
    have hsymbol : found.symbol = comparison.symbol := String.toList_inj.mp (hinitial.eq_of_length hlength)
    rw [hfound, symbol_injective hsymbol]

end Comparison

/-! ## Splits of a word -/

/-- A word is a column, a comparison and a value: the column is a name, and no longer comparison stands in the
place of this one. -/
structure Splits (word column symbol value : String) : Prop where
  whole : word = column ++ symbol ++ value
  named : column ≠ "" ∧ ∀ c ∈ column.toList, Text.isAlphanumeric c = true ∨ c = '_' ∨ c = '.'
  compares : symbol ∈ Comparison.symbols
  longest : ∀ other ∈ Comparison.symbols, other.toList <+: (symbol ++ value).toList → other.length ≤ symbol.length

namespace Predicate

theorem isIdentifier_iff_named {name : String} :
    isIdentifier name = true ↔
      name ≠ "" ∧ ∀ c ∈ name.toList, Text.isAlphanumeric c = true ∨ c = '_' ∨ c = '.' := by
  simp [isIdentifier_iff, Text.isWordChar, or_assoc]

theorem reads_iff_splits {word : String} {p : Predicate} :
    Reads word p ↔ Splits word p.column p.comparison.symbol p.value := by
  constructor
  · rintro ⟨hcolumn, htext, hlongest⟩
    refine ⟨htext, isIdentifier_iff_named.mp hcolumn, Comparison.mem_symbols_iff.mpr ⟨_, rfl⟩, ?_⟩
    intro other hother hstarts
    obtain ⟨comparison, rfl⟩ := Comparison.mem_symbols_iff.mp hother
    exact Comparison.length_le_of_leading? hlongest hstarts
  · rintro ⟨hwhole, hnamed, -, hlongest⟩
    refine ⟨isIdentifier_iff_named.mpr hnamed, hwhole, Comparison.leading?_eq_some_iff.mpr ⟨?_, ?_⟩⟩
    · rw [String.toList_append]
      exact List.prefix_append _ _
    · intro other hstarts
      exact hlongest other.symbol (Comparison.mem_symbols_iff.mpr ⟨other, rfl⟩) hstarts

/-- The parts of a split are those of the predicate that the word is read as. -/
theorem exists_of_splits {word column symbol value : String} (h : Splits word column symbol value) :
    ∃ p, ofWord word = .ok p ∧ (column, symbol, value) = (p.column, p.comparison.symbol, p.value) := by
  obtain ⟨comparison, rfl⟩ := Comparison.mem_symbols_iff.mp h.compares
  let p : Predicate := ⟨column, comparison, value⟩
  exact ⟨p, ofWord_eq_ok.mpr (reads_iff_splits.mpr h), rfl⟩

theorem eq_infeasible_of_ofWord {word : String} {failure : Failure} (h : ofWord word = .error failure) :
    failure = .infeasible word := by
  unfold ofWord at h
  split at h
  · cases h
    rfl
  · dsimp only at h
    split at h
    · cases h
    · cases h
      rfl

/-- A word is read as a predicate just if it splits as one, which it does in one way at most, and is refused as
a whole otherwise. -/
theorem ofWord_grammar (word : String) :
    (∀ p, ofWord word = .ok p ↔ Splits word p.column p.comparison.symbol p.value) ∧
      { parts : String × String × String | Splits word parts.1 parts.2.1 parts.2.2 }.Subsingleton ∧
      ∀ failure, ofWord word = .error failure ↔
        failure = .infeasible word ∧ ∀ column symbol value, ¬ Splits word column symbol value := by
  have hread : ∀ p, ofWord word = .ok p ↔ Splits word p.column p.comparison.symbol p.value :=
    fun p => ofWord_eq_ok.trans reads_iff_splits
  refine ⟨hread, ?_, fun failure => ⟨fun hfailure => ⟨eq_infeasible_of_ofWord hfailure, ?_⟩, ?_⟩⟩
  · intro first hfirst second hsecond
    obtain ⟨p, hp, hparts⟩ := exists_of_splits hfirst
    obtain ⟨q, hq, hparts'⟩ := exists_of_splits hsecond
    obtain rfl : p = q := Except.ok.inj (hp.symm.trans hq)
    exact hparts.trans hparts'.symm
  · intro column symbol value hsplits
    obtain ⟨p, hp, -⟩ := exists_of_splits hsplits
    rw [hfailure] at hp
    cases hp
  · rintro ⟨rfl, hnone⟩
    cases hresult : ofWord word with
    | ok p => exact absurd ((hread p).mp hresult) (hnone _ _ _)
    | error failure => rw [eq_infeasible_of_ofWord hresult]

/-- The longest comparison at its place is taken, and what follows it belongs to the value. -/
example : ofWord "size.of_é<>=<9" = .ok ⟨"size.of_é", .differsAngled, "=<9"⟩ := by decide +kernel

/-- A later comparison does not save a word whose first one has no name before it. -/
example : ofWord "a b=c>=d" = .error (.infeasible "a b=c>=d") := by decide +kernel

end Predicate

end TerseQuery.Sql
