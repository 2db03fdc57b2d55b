import Mathlib.Data.List.Basic

/-!
# Sorting by a name

A stable sort by name is pinned down by two facts: names do not fall, and the elements of one name keep their
order.

* `pairwise_sortBy`, `filter_sortBy`: these facts hold of a stable sort;
* `eq_sortBy`: and of nothing else;
* `flatMap_filter_eq_sortBy`: reading the elements name by name sorts them.
-/

namespace TerseQuery

variable {α : Type} (name : α → String)

/-- A list sorted by a name of its elements; those of one name keep their order. -/
def sortBy (l : List α) : List α :=
  l.mergeSort fun a b => decide (name a ≤ name b)

variable {name}

theorem name_le_trans (a b c : α) (hab : decide (name a ≤ name b) = true)
    (hbc : decide (name b ≤ name c) = true) : decide (name a ≤ name c) = true := by
  rw [decide_eq_true_eq] at hab hbc ⊢
  exact String.le_trans hab hbc

theorem name_le_total (a b : α) : (decide (name a ≤ name b) || decide (name b ≤ name a)) = true := by
  rw [Bool.or_eq_true, decide_eq_true_eq, decide_eq_true_eq]
  exact String.le_total (name a) (name b)

theorem pairwise_sortBy (l : List α) : (sortBy name l).Pairwise fun a b => name a ≤ name b :=
  (List.pairwise_mergeSort name_le_trans name_le_total l).imp fun h => of_decide_eq_true h

/-- Elements of one name are sorted in any order. -/
theorem pairwise_filter_name (l : List α) (key : String) :
    (l.filter (name · == key)).Pairwise fun a b => name a ≤ name b := by
  rw [List.pairwise_filter]
  refine List.pairwise_of_forall fun a b ha hb => ?_
  have hsame : name a = name b := (beq_iff_eq.mp ha).trans (beq_iff_eq.mp hb).symm
  exact hsame ▸ String.le_refl (name a)

theorem sortBy_of_pairwise {l : List α} (h : l.Pairwise fun a b => name a ≤ name b) :
    sortBy name l = l :=
  List.mergeSort_of_pairwise (h.imp fun hab => decide_eq_true hab)

theorem mem_sortBy {l : List α} {a : α} : a ∈ sortBy name l ↔ a ∈ l :=
  (List.mergeSort_perm l _).mem_iff

/-- The elements of one name keep their order. -/
theorem filter_sortBy (l : List α) (key : String) :
    (sortBy name l).filter (name · == key) = l.filter (name · == key) := by
  have hnames : (l.filter (name · == key)).Pairwise fun a b => name a ≤ name b :=
    pairwise_filter_name l key
  have hsub : (l.filter (name · == key)).Sublist (sortBy name l) :=
    List.sublist_mergeSort name_le_trans name_le_total (hnames.imp fun h => decide_eq_true h)
      List.filter_sublist
  have hfilter := hsub.filter (name · == key)
  rw [List.filter_filter] at hfilter
  simp only [Bool.and_self] at hfilter
  refine (hfilter.eq_of_length ?_).symm
  exact ((List.mergeSort_perm l _).filter _).length_eq.symm

/-- Sorted lists with the same elements of each name in the same order are equal. -/
theorem eq_of_filter_eq {l l' : List α} (hl : l.Pairwise fun a b => name a ≤ name b)
    (hl' : l'.Pairwise fun a b => name a ≤ name b)
    (h : ∀ key, l.filter (name · == key) = l'.filter (name · == key)) : l = l' := by
  have hmem : ∀ {k k' : List α}, (∀ key, k.filter (name · == key) = k'.filter (name · == key)) →
      ∀ a ∈ k, a ∈ k' := by
    intro k k' hk a ha
    have hclass : a ∈ k.filter (name · == name a) := List.mem_filter.mpr ⟨ha, by simp⟩
    rw [hk] at hclass
    exact (List.mem_filter.mp hclass).1
  induction l generalizing l' with
  | nil =>
    cases l' with
    | nil => rfl
    | cons b rest' => exact absurd (hmem (fun key => (h key).symm) b List.mem_cons_self) List.not_mem_nil
  | cons a rest ih =>
    cases l' with
    | nil => exact absurd (hmem h a List.mem_cons_self) List.not_mem_nil
    | cons b rest' =>
      obtain ⟨ha, hrest⟩ := List.pairwise_cons.mp hl
      obtain ⟨hb, hrest'⟩ := List.pairwise_cons.mp hl'
      -- each head is somewhere in the other list, so neither name is below the other
      have hab : name a ≤ name b := by
        rcases List.mem_cons.mp (hmem (fun key => (h key).symm) b List.mem_cons_self) with rfl | hlater
        · exact String.le_refl _
        · exact ha b hlater
      have hba : name b ≤ name a := by
        rcases List.mem_cons.mp (hmem h a List.mem_cons_self) with rfl | hlater
        · exact String.le_refl _
        · exact hb a hlater
      have hname : name b = name a := String.le_antisymm hba hab
      have hhead := h (name a)
      rw [List.filter_cons_of_pos (by simp), List.filter_cons_of_pos (by simp [hname])] at hhead
      obtain ⟨rfl, -⟩ := List.cons.inj hhead
      congr 1
      refine ih hrest hrest' fun key => ?_
      have hkey := h key
      by_cases hsame : name a = key
      · rw [List.filter_cons_of_pos (by simp [hsame]), List.filter_cons_of_pos (by simp [hsame])] at hkey
        exact (List.cons.inj hkey).2
      · rw [List.filter_cons_of_neg (by simp [hsame]), List.filter_cons_of_neg (by simp [hsame])] at hkey
        exact hkey

theorem eq_sortBy {l l' : List α} (hsorted : l'.Pairwise fun a b => name a ≤ name b)
    (h : ∀ key, l'.filter (name · == key) = l.filter (name · == key)) : l' = sortBy name l :=
  eq_of_filter_eq hsorted (pairwise_sortBy l) fun key => (h key).trans (filter_sortBy l key).symm

theorem flatMap_ite_eq {β : Type} {keys : List String} (hkeys : keys.Nodup) (key : String) (x : List β) :
    (keys.flatMap fun own => if own = key then x else []) = if key ∈ keys then x else [] := by
  induction keys with
  | nil => rfl
  | cons own rest ih =>
    obtain ⟨hown, hrest⟩ := List.nodup_cons.mp hkeys
    rw [List.flatMap_cons, ih hrest]
    by_cases hsame : own = key
    · subst hsame
      simp [hown]
    · simp [hsame, Ne.symm hsame]

/-- Elements read name by name, the names in order, are sorted. -/
theorem flatMap_filter_eq_sortBy {l : List α} {keys : List String} (hkeys : keys.Pairwise (· < ·))
    (hcover : ∀ a ∈ l, name a ∈ keys) :
    (keys.flatMap fun key => l.filter (name · == key)) = sortBy name l := by
  apply eq_sortBy
  · rw [List.pairwise_flatMap]
    refine ⟨fun key _ => pairwise_filter_name l key, hkeys.imp fun {first second} hlt => ?_⟩
    intro a ha b hb
    have hfirst : name a = first := by simpa using (List.mem_filter.mp ha).2
    have hsecond : name b = second := by simpa using (List.mem_filter.mp hb).2
    rw [hfirst, hsecond, ← String.not_lt]
    exact fun hgt => String.lt_irrefl first (String.lt_trans hlt hgt)
  · intro key
    have hclass : ∀ own, (l.filter (name · == own)).filter (name · == key) =
        if own = key then l.filter (name · == key) else [] := by
      intro own
      rw [List.filter_filter]
      split
      · rename_i hsame
        simp [hsame]
      · rename_i hother
        rw [List.filter_eq_nil_iff]
        intro a _ hboth
        obtain ⟨hkey, hown⟩ := Bool.and_eq_true_iff.mp hboth
        exact hother ((beq_iff_eq.mp hown).symm.trans (beq_iff_eq.mp hkey))
    have hnodup : keys.Nodup := by
      refine hkeys.imp fun {first second} hlt hsame => ?_
      rw [hsame] at hlt
      exact String.lt_irrefl second hlt
    simp only [List.filter_flatMap, hclass]
    rw [flatMap_ite_eq hnodup]
    split
    · rfl
    · rename_i habsent
      symm
      rw [List.filter_eq_nil_iff]
      intro a ha hsame
      exact habsent (beq_iff_eq.mp hsame ▸ hcover a ha)

end TerseQuery
