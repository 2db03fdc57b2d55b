import TerseQuery.Proofs.Options.Groups
import TerseQuery.Proofs.Query.Placement

/-!
# Display modes among options

* `OptionMap.ModesWithin`: the display modes that options ask for are among some;
* `OptionMap.ModesWithin.set`, `OptionMap.ModesWithin.foldl_change`: options that name none other keep it so;
* `OptionMap.ModesWithin.displayMode?_getD`: the mode that is in effect then;
* `OptionRegistry.modesWithin_effective`: transient options that name none do not matter.
-/

namespace TerseQuery

/-- The display mode that an option token names. -/
def DisplayMode.named? (token : String) : Option DisplayMode :=
  ofKey? (parseOption token).1

theorem DisplayMode.ofKey?_eq_some_iff {key : String} {mode : DisplayMode} :
    ofKey? key = some mode ↔ mode.key = key := by
  constructor
  · intro h
    simpa using List.find?_some h
  · rintro rfl
    exact ofKey?_key mode

theorem DisplayMode.key_mem_keys (mode : DisplayMode) : mode.key ∈ OptionGroup.format.keys := by
  cases mode <;> decide

theorem DisplayMode.key_inj {mode other : DisplayMode} (h : mode.key = other.key) : mode = other := by
  rw [← ofKey?_eq_some_iff, ofKey?_key] at h
  exact (Option.some.inj h).symm

/-- Whether a key of the group of display modes is the key of one. -/
theorem DisplayMode.exists_key {key : String} (h : key ∈ OptionGroup.format.keys) :
    ∃ mode : DisplayMode, mode.key = key := by
  have hall : ∀ key ∈ OptionGroup.format.keys, (ofKey? key).isSome := by decide
  obtain ⟨mode, hmode⟩ := Option.isSome_iff_exists.mp (hall key h)
  exact ⟨mode, ofKey?_eq_some_iff.mp hmode⟩

namespace OptionMap

/-- Whether the display modes that options ask for are among some. -/
def ModesWithin (modes : List DisplayMode) (map : OptionMap) : Prop :=
  ∀ mode : DisplayMode, map.contains mode.key = true → mode ∈ modes

namespace ModesWithin

variable {modes : List DisplayMode} {map : OptionMap}

theorem empty : ModesWithin modes .empty := by
  intro mode hcontains
  cases hcontains

/-- A setting of no other display mode adds none. -/
theorem set (h : map.ModesWithin modes) {key : String} (hkey : ∀ mode ∈ DisplayMode.ofKey? key, mode ∈ modes)
    (value : OptionValue) : (map.set key value).ModesWithin modes := by
  intro mode hcontains
  rw [contains_set_of_mem_keys mode.key_mem_keys] at hcontains
  split at hcontains
  · exact hkey mode (DisplayMode.ofKey?_eq_some_iff.mpr hcontains.symm)
  · exact h mode hcontains

/-- A setting of a display mode takes the place of all others. -/
theorem set_mode (map : OptionMap) (mode : DisplayMode) (value : OptionValue) :
    (map.set mode.key value).ModesWithin [mode] := by
  intro other hcontains
  rw [contains_set_of_mem_keys other.key_mem_keys, if_pos mode.key_mem_keys] at hcontains
  exact List.mem_singleton.mpr (DisplayMode.key_inj hcontains.symm)

theorem erase (h : map.ModesWithin modes) (key : String) : ModesWithin modes (map.erase key) := by
  intro mode hcontains
  rw [Dict.contains, Dict.get?_erase] at hcontains
  split at hcontains
  · cases hcontains
  · exact h mode hcontains

theorem foldl_change (h : map.ModesWithin modes) {changes : List OptionChange}
    (hchanges : ∀ key value, .set key value ∈ changes → ∀ mode ∈ DisplayMode.ofKey? key, mode ∈ modes) :
    (changes.foldl OptionMap.change map).ModesWithin modes := by
  intro mode hcontains
  rcases contains_foldl_change hcontains with hold | ⟨value, hset⟩
  · exact h mode hold
  · exact hchanges mode.key value hset mode (DisplayMode.ofKey?_key mode)

/-- Options that ask for one display mode at most leave that one in effect. -/
theorem displayMode?_getD {mode : DisplayMode} (h : map.ModesWithin [mode]) :
    map.displayMode?.getD mode = mode := by
  cases hmode : map.displayMode? with
  | none => rfl
  | some other =>
    obtain ⟨key, hactive, hother⟩ := Option.bind_eq_some_iff.mp hmode
    have hcontains : map.contains key = true := List.find?_some hactive
    rw [← DisplayMode.ofKey?_eq_some_iff.mp hother] at hcontains
    exact List.mem_singleton.mp (h other hcontains)

end ModesWithin

end OptionMap

namespace OptionRegistry

open OptionMap

theorem transient_setToken (r : OptionRegistry) (token : String) :
    (r.setToken .transient token).transient = r.transient.set (parseOption token).1 (parseOption token).2 := by
  rw [setToken, OptionRegistry.set, modify]

/-- Tokens that name no display mode leave none among the transient options. -/
theorem modesWithin_setTokens {modes : List DisplayMode} {r : OptionRegistry} (h : r.transient.ModesWithin modes)
    {tokens : List String} (htokens : ∀ token ∈ tokens, ∀ mode ∈ DisplayMode.named? token, mode ∈ modes) :
    (Sorting.setTokens r tokens).transient.ModesWithin modes := by
  induction tokens generalizing r with
  | nil => exact h
  | cons token rest ih =>
    have hfirst : (r.setToken .transient token).transient.ModesWithin modes := by
      rw [transient_setToken]
      exact h.set (htokens token List.mem_cons_self) _
    have hrest := ih hfirst fun other hother => htokens other (List.mem_cons_of_mem _ hother)
    rw [Sorting.setTokens] at hrest ⊢
    rw [List.foldl_cons]
    exact hrest

/-- Transient options that name no display mode leave the persistent one in effect. -/
theorem modesWithin_effective {modes : List DisplayMode} {r : OptionRegistry}
    (hpersistent : r.persistent.ModesWithin modes) (htransient : r.transient.ModesWithin []) :
    r.effective.ModesWithin modes := by
  intro mode hcontains
  have hspared : ∀ entry ∈ r.transient.entries, clears entry.1 mode.key = true → entry.1 = mode.key := by
    intro entry hentry hclears
    obtain ⟨group, hother, hmode⟩ := clears_iff.mp hclears
    have hgroup := OptionGroup.ofKey?_eq_some_iff.mpr mode.key_mem_keys
    rw [OptionGroup.ofKey?_eq_some_iff.mpr hmode, Option.some.injEq] at hgroup
    obtain ⟨other, hkey⟩ := DisplayMode.exists_key (hgroup ▸ hother)
    have hheld : r.transient.contains other.key = true :=
      contains_iff.mpr ⟨entry.2, hkey ▸ Dict.get?_of_mem hentry⟩
    cases htransient other hheld
  have hnone : r.transient.get? mode.key = none := by
    cases hget : r.transient.get? mode.key with
    | none => rfl
    | some value => cases htransient mode (contains_iff.mpr ⟨value, hget⟩)
  rw [Dict.contains, get?_effective_of_spared hspared, hnone, Option.none_or] at hcontains
  exact hpersistent mode hcontains

/-- The display mode that persistent options begin with is the configured one, if their text names no other. -/
theorem modesWithin_seed {r seeded : OptionRegistry} {format : DisplayMode} {runMode : RunMode}
    {extra : Option String} (hfresh : r.persistent.ModesWithin [])
    (hextra : ∀ token ∈ seedTokens (extra.getD ""), ∀ mode ∈ DisplayMode.named? token, mode = format)
    (h : r.seed format runMode extra = .ok seeded) : seeded.persistent.ModesWithin [format] := by
  have hnot : r.seeded = false := by
    cases hseeded : r.seeded with
    | false => rfl
    | true =>
      rw [seed_of_seeded r hseeded] at h
      cases h
  rw [seed_of_not_seeded r hnot] at h
  cases h
  refine ModesWithin.foldl_change (fun mode hmode => nomatch hfresh mode hmode) fun key value hset mode hmode => ?_
  rw [List.mem_singleton]
  rcases List.mem_append.mp hset with hflags | htokens
  · obtain ⟨flag, hflag, hsame⟩ := List.mem_map.mp hflags
    obtain ⟨rfl, -⟩ := OptionChange.set.inj hsame
    rcases List.mem_cons.mp hflag with rfl | hrun
    · exact DisplayMode.key_inj (DisplayMode.ofKey?_eq_some_iff.mp hmode)
    · have hnone : ∀ key ∈ runMode.optionKeys, DisplayMode.ofKey? key = none := by cases runMode <;> decide
      rw [hnone _ hrun] at hmode
      cases hmode
  · obtain ⟨token, htoken, hsame⟩ := List.mem_map.mp htokens
    rw [OptionChange.ofWord_eq] at hsame
    obtain ⟨rfl, -⟩ := OptionChange.set.inj hsame
    exact hextra token htoken mode hmode

end OptionRegistry

end TerseQuery
