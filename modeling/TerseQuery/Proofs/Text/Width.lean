import Mathlib.Algebra.GroupWithZero.Nat
import TerseQuery.Text.Blank
import TerseQuery.Text.Width

/-!
# Widths of plain text

Text without escape characters is as wide as its characters together.

* `displayWidth_eq_sum`, `displayWidth_append`: the width of plain text and of its parts;
* `trimEnd_append`: a text is what remains without the blanks at its end, and these blanks.
-/

namespace TerseQuery.Text

/-- A text without escape characters. -/
def IsPlain (s : String) : Prop :=
  '\x1b' ∉ s.toList

instance {s : String} : Decidable (IsPlain s) :=
  inferInstanceAs (Decidable ('\x1b' ∉ s.toList))

theorem isPlain_append {s t : String} : IsPlain (s ++ t) ↔ IsPlain s ∧ IsPlain t := by
  simp [IsPlain, not_or]

theorem displayWidth_eq_sum {s : String} (h : IsPlain s) :
    displayWidth s = (s.toList.map charWidth).sum := by
  rw [displayWidth, widthFrom_plain h, List.sum_eq_foldr, List.foldr_map]

theorem displayWidth_append {s t : String} (hs : IsPlain s) (ht : IsPlain t) :
    displayWidth (s ++ t) = displayWidth s + displayWidth t := by
  rw [displayWidth_eq_sum (isPlain_append.mpr ⟨hs, ht⟩), displayWidth_eq_sum hs, displayWidth_eq_sum ht,
    String.toList_append, List.map_append, List.sum_append]

/-! ## Blanks -/

theorem isPlain_spaces (count : Nat) : IsPlain (String.ofList (List.replicate count ' ')) := by
  intro hmem
  rw [String.toList_ofList] at hmem
  exact absurd (List.eq_of_mem_replicate hmem) (by decide)

theorem displayWidth_spaces (count : Nat) :
    displayWidth (String.ofList (List.replicate count ' ')) = count := by
  have hspace : charWidth ' ' = 1 := by decide
  rw [displayWidth_eq_sum (isPlain_spaces count), String.toList_ofList, List.map_replicate, hspace,
    List.sum_replicate_nat, Nat.mul_one]

theorem trimEnd_append (cs : List Char) :
    ∃ blanks, cs = trimEnd cs ++ blanks ∧ ∀ c ∈ blanks, isBlank c = true := by
  refine ⟨(cs.reverse.takeWhile isBlank).reverse, ?_, ?_⟩
  · rw [trimEnd, ← List.reverse_append, List.takeWhile_append_dropWhile, List.reverse_reverse]
  · intro c hc
    exact List.all_eq_true.mp List.all_takeWhile c (List.mem_reverse.mp hc)

theorem mem_of_mem_trimEnd {cs : List Char} {c : Char} (h : c ∈ trimEnd cs) : c ∈ cs := by
  obtain ⟨blanks, heq, -⟩ := trimEnd_append cs
  rw [heq]
  exact List.mem_append_left _ h

theorem displayWidth_trimEnd_le {s : String} (h : IsPlain s) :
    displayWidth (String.ofList (trimEnd s.toList)) ≤ displayWidth s := by
  have hplain : IsPlain (String.ofList (trimEnd s.toList)) := by
    intro hmem
    rw [String.toList_ofList] at hmem
    exact h (mem_of_mem_trimEnd hmem)
  obtain ⟨blanks, heq, -⟩ := trimEnd_append s.toList
  rw [displayWidth_eq_sum hplain, displayWidth_eq_sum h, String.toList_ofList]
  conv => rhs; rw [heq, List.map_append, List.sum_append]
  exact Nat.le_add_right _ _

end TerseQuery.Text
