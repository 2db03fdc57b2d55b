import Mathlib.Data.List.Basic
import TerseQuery.Text.Cut

/-!
# Where a text is cut

A text is cut at the first occurrence of a mark.

* `cut?_eq_some_iff`: no other occurrence has less text before it;
* `cut?_append`, `cut?_eq_none`: where the first character of the mark does not occur before the mark;
* `cutAt?_append`, `cutAt?_eq_none`: the same of strings.
-/

namespace TerseQuery.Text

theorem cut?_eq_some_iff {mark cs before after : List Char} :
    cut? mark cs = some (before, after) ↔
      cs = before ++ (mark ++ after) ∧
        ∀ earlier later, cs = earlier ++ (mark ++ later) → before.length ≤ earlier.length := by
  constructor
  · intro h
    refine ⟨by rw [append_of_cut? h, List.append_assoc], ?_⟩
    induction cs generalizing before with
    | nil =>
      unfold cut? at h
      split at h
      · cases h
        exact fun _ _ _ => Nat.zero_le _
      · cases h
    | cons c rest ih =>
      unfold cut? at h
      split at h
      · cases h
        exact fun _ _ _ => Nat.zero_le _
      · rename_i hstart
        obtain ⟨⟨inner, outer⟩, hcut, hparts⟩ := Option.map_eq_some_iff.mp h
        cases hparts
        intro earlier later heq
        cases earlier with
        | nil => exact absurd (List.isPrefixOf_iff_prefix.mpr ⟨later, heq.symm⟩) hstart
        | cons d earlier => exact Nat.succ_le_succ (ih hcut earlier later (List.cons.inj heq).2)
  · rintro ⟨rfl, hfirst⟩
    induction before with
    | nil =>
      rw [List.nil_append]
      cases hcs : mark ++ after with
      | nil =>
        obtain ⟨rfl, rfl⟩ := List.append_eq_nil_iff.mp hcs
        rfl
      | cons c rest =>
        have hstart := List.isPrefixOf_iff_prefix.mpr (List.prefix_append mark after)
        rw [cut?, ← hcs, if_pos hstart, List.drop_left]
    | cons c before ih =>
      have hstart : ¬ mark.isPrefixOf (c :: (before ++ (mark ++ after))) = true := by
        intro hprefix
        obtain ⟨later, heq⟩ := List.isPrefixOf_iff_prefix.mp hprefix
        exact absurd (hfirst [] later heq.symm) (Nat.not_succ_le_zero _)
      have hrest := ih fun earlier later heq =>
        Nat.le_of_succ_le_succ (hfirst (c :: earlier) later (congrArg (c :: ·) heq))
      rw [List.cons_append, cut?, if_neg hstart, hrest]
      rfl

section
variable {c : Char} {cs before : List Char}

theorem cut?_append (h : c ∉ before) (mark after : List Char) :
    cut? (c :: mark) (before ++ c :: (mark ++ after)) = some (before, after) := by
  induction before with
  | nil => simp [cut?]
  | cons d rest ih =>
    obtain ⟨hd, hrest⟩ := not_or.mp (List.mem_cons.not.mp h)
    simp [cut?, List.isPrefixOf, hd, ih hrest]

theorem cut?_eq_none (h : c ∉ cs) (mark : List Char) : cut? (c :: mark) cs = none := by
  induction cs with
  | nil => rfl
  | cons d rest ih =>
    obtain ⟨hd, hrest⟩ := not_or.mp (List.mem_cons.not.mp h)
    simp [cut?, List.isPrefixOf, hd, ih hrest]

end

section
variable {text : String} {c : Char} {tail : List Char}

theorem cutAt?_append (mark : String) (hmark : mark.toList = c :: tail) (h : c ∉ text.toList) (after : String) :
    cutAt? (text ++ mark ++ after) mark = some (text, after) := by
  have hcut := cut?_append h tail after.toList
  rw [cutAt?, String.toList_append, String.toList_append, hmark, List.append_assoc, List.cons_append, hcut]
  simp

theorem cutAt?_eq_none (mark : String) (hmark : mark.toList = c :: tail) (h : c ∉ text.toList) :
    cutAt? text mark = none := by
  rw [cutAt?, hmark, cut?_eq_none h tail]
  rfl

end

end TerseQuery.Text
