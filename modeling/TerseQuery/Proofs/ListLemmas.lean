import Mathlib.Data.List.Forall2

/-!
# Lists
-/

namespace TerseQuery

section
variable {α β γ δ : Type}

/-- The first element taken out before or after a selection that holds of all candidates or of none. -/
theorem filter_eraseP {f g : α → Bool} (l : List α)
    (h : (∀ a, f a = true → g a = true) ∨ ∀ a, f a = true → g a = false) :
    (l.eraseP f).filter g = (l.filter g).eraseP f := by
  induction l with
  | nil => rfl
  | cons a l ih =>
    cases hf : f a with
    | false => cases hg : g a <;> simp [hf, hg, ih]
    | true =>
      rcases h with hall | hnone
      · simp [hf, hall a hf]
      · have hkept : ∀ b ∈ l.filter g, f b = false := by
          intro b hb
          cases hfb : f b with
          | false => rfl
          | true =>
            have hgb := (List.mem_filter.mp hb).2
            rw [hnone b hfb] at hgb
            cases hgb
        have hkeep : (l.filter g).eraseP f = l.filter g :=
          List.eraseP_of_forall_not fun b hb => by simp [hkept b hb]
        simp [hf, hnone a hf, hkeep]

theorem mapM_eq_some_map {f : α → Option β} {g : α → β} {l : List α} (h : ∀ a ∈ l, f a = some (g a)) :
    l.mapM f = some (l.map g) := by
  induction l with
  | nil => rfl
  | cons a l ih =>
    have hrest : ∀ b ∈ l, f b = some (g b) := fun b hb => h b (List.mem_cons_of_mem _ hb)
    rw [List.mapM_cons, h a List.mem_cons_self, ih hrest]
    rfl

/-- What is made of the places in a list can be made of the elements there. -/
theorem map_range_length {f : Nat → β} {g : α → β} {l : List α}
    (h : ∀ i a, l[i]? = some a → f i = g a) : (List.range l.length).map f = l.map g := by
  apply List.ext_getElem
  · simp
  · intro i hi hi'
    have hplace : i < l.length := by simpa using hi
    rw [List.getElem_map, List.getElem_map, List.getElem_range]
    exact h i _ (List.getElem?_eq_getElem hplace)

/-- A relation to the images that are there is one to the elements that have an image. -/
theorem forall₂_of_filterMap {g : α → Option β} {keep : α → Bool} {R : α → γ → Prop} {S : β → γ → Prop}
    (hkeep : ∀ a, (g a).isSome = keep a) (hR : ∀ a b c, g a = some b → S b c → R a c) {as : List α}
    {cs : List γ} (h : List.Forall₂ S (as.filterMap g) cs) : List.Forall₂ R (as.filter keep) cs := by
  induction as generalizing cs with
  | nil =>
    cases h
    exact .nil
  | cons a as ih =>
    have hsome := hkeep a
    cases hg : g a with
    | none =>
      rw [hg] at hsome
      rw [List.filterMap_cons_none hg] at h
      rw [List.filter_cons_of_neg (by simp [← hsome])]
      exact ih h
    | some b =>
      rw [hg] at hsome
      rw [List.filterMap_cons_some hg] at h
      obtain ⟨c, cs, hbc, hrest, rfl⟩ := List.forall₂_cons_left_iff.mp h
      rw [List.filter_cons_of_pos (by simp [← hsome])]
      exact .cons (hR a b c hg hbc) (ih hrest)

/-- What elements have as images is what is made of all that they are related to. -/
theorem filterMap_of_forall₂ {g : α → Option β} {keep : α → Bool} {R : α → γ → Prop} {f : γ → β}
    (hkeep : ∀ a, (g a).isSome = keep a) (hR : ∀ a c, keep a = true → R a c → g a = some (f c)) {as : List α}
    {cs : List γ} (h : List.Forall₂ R (as.filter keep) cs) : as.filterMap g = cs.map f := by
  induction as generalizing cs with
  | nil =>
    cases h
    rfl
  | cons a as ih =>
    cases hka : keep a with
    | false =>
      rw [List.filter_cons_of_neg (by simp [hka])] at h
      have hnone : g a = none := by simpa [hka] using hkeep a
      rw [List.filterMap_cons_none hnone]
      exact ih h
    | true =>
      rw [List.filter_cons_of_pos hka] at h
      obtain ⟨c, cs, hac, hrest, rfl⟩ := List.forall₂_cons_left_iff.mp h
      rw [List.filterMap_cons_some (hR a c hka hac), List.map_cons, ih hrest]

theorem exists_forall₂_of_forall {R : α → β → Prop} {as : List α} (h : ∀ a ∈ as, ∃ b, R a b) :
    ∃ bs, List.Forall₂ R as bs := by
  induction as with
  | nil => exact ⟨[], .nil⟩
  | cons a as ih =>
    obtain ⟨b, hb⟩ := h a List.mem_cons_self
    obtain ⟨bs, hbs⟩ := ih fun a' ha' => h a' (List.mem_cons_of_mem _ ha')
    exact ⟨b :: bs, .cons hb hbs⟩

theorem mem_of_mem_ite_nil {p : Prop} [Decidable p] {l : List α} {a : α}
    (h : a ∈ if p then l else []) : a ∈ l := by
  split at h
  · exact h
  · cases h

theorem exists_of_forall₂_right {R : α → β → Prop} {as : List α} {bs : List β}
    (h : List.Forall₂ R as bs) {b : β} (hb : b ∈ bs) : ∃ a ∈ as, R a b := by
  induction h with
  | nil => cases hb
  | cons hR _ ih =>
    rcases List.mem_cons.mp hb with rfl | hrest
    · exact ⟨_, List.mem_cons_self, hR⟩
    · obtain ⟨a, ha, hRa⟩ := ih hrest
      exact ⟨a, List.mem_cons_of_mem _ ha, hRa⟩

theorem exists_forall₂ {R : α → β → Prop} {f : γ → δ} {g : β → δ} {as : List α} {cs : List γ}
    (h : List.Forall₂ (fun a c => ∃ b, R a b ∧ f c = g b) as cs) :
    ∃ bs, List.Forall₂ R as bs ∧ cs.map f = bs.map g := by
  induction h with
  | nil => exact ⟨[], .nil, rfl⟩
  | cons hac _ ih =>
    obtain ⟨b, hb, hfg⟩ := hac
    obtain ⟨bs, hbs, hmap⟩ := ih
    exact ⟨b :: bs, .cons hb hbs, by rw [List.map_cons, List.map_cons, hfg, hmap]⟩

end

end TerseQuery
