import Mathlib.Data.List.Forall2
import TerseQuery.Proofs.Options.Effective

/-!
# Options that differ in one value

Two sets of options that are the same but for the value of one key stay so whatever is set in both, and so do
the options in effect.

* `SameBut`: equal values, or two that are named;
* `OptionMap.SameBut.put`, `OptionMap.SameBut.set`: setting options on both sides;
* `OptionMap.SameBut.get?_of_ne`, `OptionMap.SameBut.get?_key`: only look-ups of the one key can differ;
* `OptionRegistry.sameBut_effective`: the options in effect.
-/

namespace TerseQuery

/-- Equal values, or the two that are named. -/
inductive SameBut {α : Type} (x y : α) : α → α → Prop where
  | same (value : α) : SameBut x y value value
  | named : SameBut x y x y

theorem SameBut.map {α β : Type} {x y v w : α} (f : α → β) (h : SameBut x y v w) :
    SameBut (f x) (f y) (f v) (f w) := by
  cases h with
  | same => exact .same _
  | named => exact .named

/-! ## Entries side by side -/

section
variable {α : Type} {R : String × α → String × α → Prop} {entries others : List (String × α)}
variable (hkey : ∀ entry other, R entry other → other.1 = entry.1)
include hkey

theorem forall₂_insertEntry {key : String} {v w : α} (hentry : R (key, v) (key, w))
    (h : List.Forall₂ R entries others) :
    List.Forall₂ R (insertEntry key v entries) (insertEntry key w others) := by
  induction h with
  | nil => exact .cons hentry .nil
  | cons hfirst hrest ih =>
    rename_i first other rest others
    unfold insertEntry
    rw [hkey first other hfirst]
    split
    · exact .cons hentry (.cons hfirst hrest)
    · split
      · exact .cons hentry hrest
      · exact .cons hfirst ih

theorem forall₂_filter_ne (key : String) (h : List.Forall₂ R entries others) :
    List.Forall₂ R (entries.filter fun entry => entry.1 ≠ key) (others.filter fun entry => entry.1 ≠ key) := by
  refine List.rel_filter (fun entry other hentry => ?_) h
  dsimp only
  rw [hkey entry other hentry]

theorem findEntry_related {V : Option α → Option α → Prop} (hnone : V none none) {key : String}
    (hvalue : ∀ v w, R (key, v) (key, w) → V (some v) (some w)) (h : List.Forall₂ R entries others) :
    V (findEntry key entries) (findEntry key others) := by
  induction h with
  | nil => exact hnone
  | cons hfirst hrest ih =>
    rename_i first other rest others
    obtain ⟨name, v⟩ := first
    obtain ⟨name', w⟩ := other
    obtain rfl : name' = name := hkey _ _ hfirst
    unfold findEntry
    by_cases hname : name' = key
    · subst hname
      rw [if_pos rfl, if_pos rfl]
      exact hvalue v w hfirst
    · rw [if_neg hname, if_neg hname]
      exact ih

end

/-! ## Options -/

namespace OptionMap

variable {key : String} {v w : OptionValue} {map other : OptionMap}

/-- The same options, but for a key that may have one value here and another one there. -/
def SameBut (key : String) (v w : OptionValue) (map other : OptionMap) : Prop :=
  List.Forall₂ (TerseQuery.SameBut (key, v) (key, w)) map.entries other.entries

namespace SameBut

theorem key_eq {entry other : String × OptionValue} (h : TerseQuery.SameBut (key, v) (key, w) entry other) :
    other.1 = entry.1 := by
  cases h <;> rfl

theorem refl (map : OptionMap) : SameBut key v w map map :=
  List.forall₂_same.mpr fun entry _ => .same entry

theorem insert {entry entry' : String × OptionValue}
    (hentry : TerseQuery.SameBut (key, v) (key, w) entry entry') (h : SameBut key v w map other) :
    SameBut key v w (map.insert entry.1 entry.2) (other.insert entry'.1 entry'.2) := by
  obtain ⟨name, value⟩ := entry
  obtain ⟨name', value'⟩ := entry'
  obtain rfl : name' = name := key_eq hentry
  exact forall₂_insertEntry (fun _ _ => key_eq) hentry h

theorem eraseAll (keys : List String) (h : SameBut key v w map other) :
    SameBut key v w (keys.foldl Dict.erase map) (keys.foldl Dict.erase other) := by
  induction keys generalizing map other with
  | nil => exact h
  | cons first rest ih => exact ih (forall₂_filter_ne (fun _ _ => key_eq) first h)

/-- The same option is set on both sides, or the one key to either value. -/
theorem put {entry entry' : String × OptionValue}
    (hentry : TerseQuery.SameBut (key, v) (key, w) entry entry') (h : SameBut key v w map other) :
    SameBut key v w (map.put entry.1 entry.2) (other.put entry'.1 entry'.2) := by
  unfold OptionMap.put
  rw [key_eq hentry]
  cases OptionGroup.ofKey? entry.1 with
  | none =>
    have hinsert := h.insert hentry
    rw [key_eq hentry] at hinsert
    exact hinsert
  | some group =>
    have hinsert := (h.eraseAll group.keys).insert hentry
    rw [key_eq hentry] at hinsert
    exact hinsert

theorem set {entry entry' : String × OptionValue}
    (hentry : TerseQuery.SameBut (key, v) (key, w) entry entry') (h : SameBut key v w map other) :
    SameBut key v w (map.set entry.1 entry.2) (other.set entry'.1 entry'.2) := by
  unfold OptionMap.set
  rw [key_eq hentry]
  split
  · exact h.put (.same (entry.1, .flag))
  · have hput := h.put hentry
    rw [key_eq hentry] at hput
    exact hput

theorem get?_of_ne (h : SameBut key v w map other) {name : String} (hne : name ≠ key) :
    other.get? name = map.get? name := by
  refine findEntry_related (fun _ _ => key_eq) (V := fun value value' => value' = value) rfl ?_ h
  intro value value' hvalue
  cases hvalue with
  | same => rfl
  | named => exact absurd rfl hne

theorem get?_key (h : SameBut key v w map other) :
    TerseQuery.SameBut (some v) (some w) (map.get? key) (other.get? key) := by
  refine findEntry_related (fun _ _ => key_eq) (.same none) ?_ h
  intro value value' hvalue
  cases hvalue with
  | same => exact .same _
  | named => exact .named

end SameBut

end OptionMap

namespace OptionRegistry

variable {key : String} {v w : OptionValue} {r other : OptionRegistry}

/-- Registries that are the same, but for one transient option. -/
structure SameBut (key : String) (v w : OptionValue) (r other : OptionRegistry) : Prop where
  persistent : other.persistent = r.persistent
  seeded : other.seeded = r.seeded
  transient : OptionMap.SameBut key v w r.transient other.transient

theorem SameBut.refl (r : OptionRegistry) : SameBut key v w r r := ⟨rfl, rfl, .refl _⟩

theorem SameBut.withTransient {transient transient' : OptionMap} (h : SameBut key v w r other)
    (htransient : OptionMap.SameBut key v w transient transient') :
    SameBut key v w { r with transient } { other with transient := transient' } :=
  ⟨h.persistent, h.seeded, htransient⟩

theorem SameBut.setToken {token token' : String}
    (htoken : TerseQuery.SameBut (key, v) (key, w) (parseOption token) (parseOption token'))
    (h : SameBut key v w r other) :
    SameBut key v w (r.setToken .transient token) (other.setToken .transient token') := by
  simp only [OptionRegistry.setToken, OptionRegistry.set, OptionRegistry.modify]
  exact h.withTransient (h.transient.set htoken)

/-- Persistent options are changed alike on both sides. -/
theorem SameBut.modifyPersistent (h : SameBut key v w r other) (change : OptionMap → OptionMap) :
    SameBut key v w (r.modify .persistent change) (other.modify .persistent change) :=
  ⟨congrArg change h.persistent, h.seeded, h.transient⟩

theorem SameBut.setPersistent (h : SameBut key v w r other) (token : String) :
    SameBut key v w (r.setToken .persistent token) (other.setToken .persistent token) := by
  simp only [OptionRegistry.setToken, OptionRegistry.set]
  exact h.modifyPersistent _

theorem SameBut.unsetPersistent (h : SameBut key v w r other) (name : String) :
    SameBut key v w (r.unset name .persistent) (other.unset name .persistent) := by
  simp only [OptionRegistry.unset]
  exact h.modifyPersistent _

/-- Options that are set on both sides, one after the other. -/
theorem SameBut.setAll {α : Type} {token token' : α → String} {items : List α}
    (htokens : ∀ item ∈ items,
      TerseQuery.SameBut (key, v) (key, w) (parseOption (token item)) (parseOption (token' item)))
    (h : SameBut key v w r other) :
    SameBut key v w ((items.map token).foldl (fun r token => r.setToken .transient token) r)
      ((items.map token').foldl (fun r token => r.setToken .transient token) other) := by
  induction items generalizing r other with
  | nil => exact h
  | cons first rest ih =>
    rw [List.map_cons, List.map_cons, List.foldl_cons, List.foldl_cons]
    exact ih (fun item hitem => htokens item (List.mem_cons_of_mem _ hitem))
      (h.setToken (htokens first List.mem_cons_self))

theorem SameBut.clearTransient (h : SameBut key v w r other) : other.clearTransient = r.clearTransient := by
  rw [OptionRegistry.clearTransient, OptionRegistry.clearTransient, h.persistent, h.seeded]

/-- The options in effect differ in the one key too. -/
theorem SameBut.effective (h : SameBut key v w r other) :
    OptionMap.SameBut key v w r.effective other.effective := by
  unfold OptionRegistry.effective
  rw [h.persistent]
  refine List.rel_foldl (fun map map' hmap entry entry' hentry => ?_) (OptionMap.SameBut.refl _) h.transient
  exact OptionMap.SameBut.put hentry hmap

end OptionRegistry

end TerseQuery
