import Mathlib.Data.List.TakeWhile
import TerseQuery.Proofs.Options.Effective
import TerseQuery.Proofs.Text.Cut

/-!
# Groups of options

Whatever is done to a registry, a scope holds one member of a group at most. Which one it is can be said of
the operations alone: the member that was set last, unless something took it away since.

* `Exclusive.change`: no change of a scope makes two members of a group active;
* `OptionChange.ofWord_eq`: what a word sets that is an option;
* `get?_foldl_change`: a scope holds the member of a group that stands in its changes;
* `inScope_foldl_apply`: the changes of a scope are those that the operations make in it;
* `get?_effective_of_exclusive`, `exclusive_effective`: what is in effect, and that it is exclusive again;
* `run_holds_last_set`: all of it for every sequence of operations.
-/

namespace TerseQuery

theorem OptionGroup.ofKey?_eq_some_iff {key : String} {group : OptionGroup} :
    ofKey? key = some group ↔ key ∈ group.keys := by
  constructor
  · exact mem_keys_of_ofKey?
  · have hall : ∀ key ∈ group.keys, ofKey? key = some group := by cases group <;> decide
    exact hall key

/-- A change of the options of one scope. -/
inductive OptionChange where
  | set (key : String) (value : OptionValue)
  | unset (key : String)
  | clear
  deriving DecidableEq, Repr

/-- Whether a change leaves a member of a group alone: it sets no member, and neither unsets this one nor
clears the scope. -/
def OptionChange.Spares (group : OptionGroup) (key : String) : OptionChange → Prop
  | set other _ => other ∉ group.keys
  | unset other => other ≠ key
  | clear => False

/-- Of a group, `key` is the member that some changes set last, and nothing took it away since. -/
def StandsIn (group : OptionGroup) (key : String) (changes : List OptionChange) : Prop :=
  ∃ before value since, changes = before ++ .set key value :: since ∧
    ∀ change ∈ since, change.Spares group key

namespace OptionMap

/-- The options of a scope after a change. -/
def change (map : OptionMap) : OptionChange → OptionMap
  | .set key value => map.set key value
  | .unset key => map.erase key
  | .clear => .empty

/-- Options with one member of each group at most, which is a flag. -/
structure Exclusive (map : OptionMap) : Prop where
  flag : ∀ group : OptionGroup, ∀ key ∈ group.keys, ∀ value, map.get? key = some value → value = .flag
  single : ∀ group : OptionGroup, ∀ key ∈ group.keys, ∀ other ∈ group.keys,
    map.contains key = true → map.contains other = true → key = other

theorem clears_iff {key other : String} :
    clears key other = true ↔ ∃ group : OptionGroup, key ∈ group.keys ∧ other ∈ group.keys := by
  simp only [clears, Option.any_eq_true, OptionGroup.ofKey?_eq_some_iff, List.contains_iff_mem]

theorem contains_iff {map : OptionMap} {key : String} :
    map.contains key = true ↔ ∃ value, map.get? key = some value := by
  rw [Dict.contains, Option.isSome_iff_exists]

section
variable {map : OptionMap} {group : OptionGroup} {key : String}

theorem set_of_mem_keys (hkey : key ∈ group.keys) (map : OptionMap) (value : OptionValue) :
    map.set key value = (map.clearGroup group).insert key .flag := by
  simp [set, put, OptionGroup.ofKey?_eq_some_iff.mpr hkey]

/-- A setting takes the place of all members of its group. -/
theorem get?_set_of_mem_keys (hkey : key ∈ group.keys) (other : String) (value : OptionValue) :
    (map.set other value).get? key =
      if other = key then some .flag else if other ∈ group.keys then none else map.get? key := by
  have hclears : clears other key = true ↔ other ∈ group.keys := by
    rw [clears_iff]
    constructor
    · rintro ⟨group', hother, hkey'⟩
      have hsame := OptionGroup.ofKey?_eq_some_iff.mpr hkey
      rw [OptionGroup.ofKey?_eq_some_iff.mpr hkey', Option.some.injEq] at hsame
      exact hsame ▸ hother
    · exact fun hother => ⟨group, hother, hkey⟩
  rw [set, get?_put]
  by_cases hsame : other = key
  · subst hsame
    simp [OptionGroup.ofKey?_eq_some_iff.mpr hkey]
  · rw [if_neg hsame, if_neg hsame]
    by_cases hother : other ∈ group.keys
    · rw [if_pos hother, if_pos (hclears.mpr hother)]
    · rw [if_neg hother, if_neg (hclears.not.mpr hother)]

theorem contains_set_of_mem_keys (hkey : key ∈ group.keys) (other : String) (value : OptionValue) :
    (map.set other value).contains key = true ↔
      if other ∈ group.keys then other = key else map.contains key = true := by
  rw [contains_iff, get?_set_of_mem_keys hkey]
  by_cases hsame : other = key
  · simp [hsame, hkey]
  · by_cases hother : other ∈ group.keys <;> simp [hsame, hother, contains_iff]

/-! ## One scope -/

theorem exclusive_empty : Exclusive .empty where
  flag := by
    intro group key _ value hget
    cases hget
  single := by
    intro group key _ other _ hcontains
    cases hcontains

theorem Exclusive.change (h : map.Exclusive) (c : OptionChange) : (map.change c).Exclusive := by
  cases c with
  | set key value =>
    constructor
    case flag =>
      intro group own hown v hget
      rw [OptionMap.change, get?_set_of_mem_keys hown] at hget
      split at hget
      · exact (Option.some.inj hget).symm
      · split at hget
        · cases hget
        · exact h.flag group own hown v hget
    case single =>
      intro group a ha b hb hca hcb
      rw [OptionMap.change, contains_set_of_mem_keys ha] at hca
      rw [OptionMap.change, contains_set_of_mem_keys hb] at hcb
      by_cases hkey : key ∈ group.keys
      · rw [if_pos hkey] at hca hcb
        exact hca.symm.trans hcb
      · rw [if_neg hkey] at hca hcb
        exact h.single group a ha b hb hca hcb
  | unset key =>
    have hkept : ∀ own v, (map.erase key).get? own = some v → map.get? own = some v := by
      intro own v hget
      rw [Dict.get?_erase] at hget
      split at hget
      · cases hget
      · exact hget
    constructor
    case flag =>
      intro group own hown v hget
      exact h.flag group own hown v (hkept own v hget)
    case single =>
      intro group a ha b hb hca hcb
      obtain ⟨va, hva⟩ := contains_iff.mp hca
      obtain ⟨vb, hvb⟩ := contains_iff.mp hcb
      exact h.single group a ha b hb (contains_iff.mpr ⟨va, hkept a va hva⟩)
        (contains_iff.mpr ⟨vb, hkept b vb hvb⟩)
  | clear => exact exclusive_empty

theorem Exclusive.foldl_change (h : map.Exclusive) (changes : List OptionChange) :
    (changes.foldl OptionMap.change map).Exclusive := by
  induction changes generalizing map with
  | nil => exact h
  | cons c rest ih => exact ih (h.change c)

/-- A key that options hold after a change was there before, or the change set it. -/
theorem contains_change {c : OptionChange} (h : (map.change c).contains key = true) :
    map.contains key = true ∨ ∃ value, c = .set key value := by
  obtain ⟨v, hget⟩ := contains_iff.mp h
  cases c with
  | set other value =>
    rw [OptionMap.change, set, get?_put] at hget
    split at hget
    · rename_i hsame
      exact .inr ⟨value, by rw [hsame]⟩
    · split at hget
      · cases hget
      · exact .inl (contains_iff.mpr ⟨v, hget⟩)
  | unset other =>
    rw [OptionMap.change, Dict.get?_erase] at hget
    split at hget
    · cases hget
    · exact .inl (contains_iff.mpr ⟨v, hget⟩)
  | clear => cases hget

theorem contains_foldl_change {changes : List OptionChange}
    (h : (changes.foldl OptionMap.change map).contains key = true) :
    map.contains key = true ∨ ∃ value, .set key value ∈ changes := by
  induction changes generalizing map with
  | nil => exact .inl h
  | cons c rest ih =>
    rcases ih h with hbefore | ⟨value, hlater⟩
    · rcases contains_change hbefore with hold | ⟨value, rfl⟩
      · exact .inl hold
      · exact .inr ⟨value, List.mem_cons_self⟩
    · exact .inr ⟨value, List.mem_cons_of_mem _ hlater⟩

/-- Which member stands after one more change. -/
theorem standsIn_append_singleton {changes : List OptionChange} {c : OptionChange} :
    StandsIn group key (changes ++ [c]) ↔
      (∃ value, c = .set key value) ∨ (c.Spares group key ∧ StandsIn group key changes) := by
  constructor
  · rintro ⟨before, value, since, hchanges, hsince⟩
    rcases List.eq_nil_or_concat since with rfl | ⟨init, last, rfl⟩
    · left
      have hlast := List.append_inj_right' hchanges rfl
      exact ⟨value, List.singleton_inj.mp hlast⟩
    · right
      rw [List.concat_eq_append] at hchanges hsince
      have hsplit : changes ++ [c] = (before ++ .set key value :: init) ++ [last] := by
        rw [hchanges, List.append_assoc, List.cons_append]
      have hinit := List.append_inj_left' hsplit rfl
      have hlast := List.singleton_inj.mp (List.append_inj_right' hsplit rfl)
      refine ⟨hlast ▸ hsince last (by simp), before, value, init, hinit, ?_⟩
      intro change hchange
      exact hsince change (List.mem_append_left _ hchange)
  · rintro (⟨value, rfl⟩ | ⟨hspares, before, value, since, rfl, hsince⟩)
    · exact ⟨changes, value, [], rfl, fun change hchange => absurd hchange List.not_mem_nil⟩
    · refine ⟨before, value, since ++ [c], by simp, ?_⟩
      intro change hchange
      rcases List.mem_append.mp hchange with hold | hnew
      · exact hsince change hold
      · rw [List.mem_singleton.mp hnew]
        exact hspares

/-- A scope holds the member of a group that stands in its changes, as a flag. -/
theorem get?_foldl_change (hkey : key ∈ group.keys) {changes : List OptionChange} {value : OptionValue} :
    (changes.foldl OptionMap.change .empty).get? key = some value ↔
      value = .flag ∧ StandsIn group key changes := by
  induction changes using List.reverseRecOn with
  | nil =>
    constructor
    · intro hget
      cases hget
    · rintro ⟨-, before, v, since, hnil, -⟩
      cases before <;> cases hnil
  | append_singleton changes c ih =>
    rw [List.foldl_append, List.foldl_cons, List.foldl_nil, standsIn_append_singleton]
    cases c with
    | set other v =>
      rw [OptionMap.change, get?_set_of_mem_keys hkey]
      simp only [OptionChange.Spares, OptionChange.set.injEq]
      by_cases hsame : other = key
      · simp [hsame, eq_comm]
      · by_cases hother : other ∈ group.keys <;> simp [hsame, hother, ih]
    | unset other =>
      rw [OptionMap.change, Dict.get?_erase]
      by_cases hsame : other = key <;> simp [OptionChange.Spares, hsame, ih]
    | clear => simp [OptionMap.change, OptionChange.Spares]

end

end OptionMap

/-! ## Words that are options -/

section
open Text

/-- A token after its dashes. -/
def undashed (token : String) : List Char :=
  token.toList.dropWhile (· == '-')

section
variable {token : String} {key : List Char} (hkey : '=' ∉ key)
include hkey

theorem parseOption_flag (h : undashed token = key) :
    parseOption token = (String.ofList key, .flag) := by
  have hcut : cut? ['='] (undashed token) = none := by rw [h, cut?_eq_none hkey]
  rw [undashed] at h hcut
  simp [parseOption, cutAt?, h, h ▸ hcut]

theorem parseOption_text {value : List Char} (h : undashed token = key ++ '=' :: value) :
    parseOption token = (String.ofList key, .text (String.ofList value)) := by
  have hcut : cut? ['='] (undashed token) = some (key, value) := by
    rw [h]
    exact cut?_append hkey [] value
  rw [undashed] at hcut
  simp [parseOption, cutAt?, hcut]

end

/-- The text after the dashes is a key, or a key and a value. -/
theorem exists_key (token : String) :
    ∃ key, '=' ∉ key ∧ (undashed token = key ∨ ∃ value, undashed token = key ++ '=' :: value) := by
  by_cases hmem : '=' ∈ undashed token
  · obtain ⟨key, value, hsplit, hkey⟩ := List.eq_append_cons_of_mem hmem
    exact ⟨key, hkey, .inr ⟨value, hsplit⟩⟩
  · exact ⟨undashed token, hmem, .inl rfl⟩

/-- What a word sets that is an option: up to the first `=` after its dashes stands the key, and behind that the
value. Without `=` it is a flag. -/
def OptionChange.ofWord (word : String) : OptionChange :=
  .set (String.ofList ((undashed word).takeWhile (· != '=')))
    (if '=' ∈ undashed word then .text (String.ofList ((undashed word).dropWhile (· != '=')).tail) else .flag)

theorem OptionChange.ofWord_eq (word : String) :
    ofWord word = .set (parseOption word).1 (parseOption word).2 := by
  obtain ⟨key, hkey, hword⟩ := exists_key word
  have hkept : ∀ c ∈ key, (c != '=') = true := fun c hc => bne_iff_ne.mpr (ne_of_mem_of_not_mem hc hkey)
  rcases hword with hflag | ⟨value, htext⟩
  · rw [parseOption_flag hkey hflag, ofWord, hflag, List.takeWhile_eq_self_iff.mpr hkept, if_neg hkey]
  · have hmem : '=' ∈ key ++ '=' :: value := List.mem_append_right _ List.mem_cons_self
    rw [parseOption_text hkey htext, ofWord, htext, if_pos hmem, List.takeWhile_append_of_pos hkept,
      List.dropWhile_append_of_pos hkept]
    simp

end

/-! ## Operations on a registry -/

/-- An operation on a registry. -/
inductive RegistryOp where
  | set (key : String) (value : OptionValue) (scope : Scope)
  | setExclusive (group : OptionGroup) (key : String) (member : key ∈ group.keys) (scope : Scope)
  | unset (key : String) (scope : Scope)
  | clearTransient
  | seed (format : DisplayMode) (runMode : RunMode) (extra : Option String)
  deriving DecidableEq, Repr

namespace RegistryOp

/-- Whether an operation sets the persistent options up. -/
def isSeed : RegistryOp → Bool
  | seed .. => true
  | _ => false

/-- What the first seeding sets: the configured display mode and run mode, then, of the words of a text, those that
start with a dash. -/
def seedChanges (format : DisplayMode) (runMode : RunMode) (extra : Option String) : List OptionChange :=
  (format.key :: runMode.optionKeys).map (.set · .flag) ++
    ((Text.words (extra.getD "")).filter fun word => word.toList.head? == some '-').map OptionChange.ofWord

/-- What an operation changes in a scope; `seeded` tells whether the persistent options were set up before. -/
def changes (scope : Scope) (seeded : Bool) : RegistryOp → List OptionChange
  | set key value target => if target = scope then [.set key value] else []
  | setExclusive _ key _ target => if target = scope then [.set key .flag] else []
  | unset key target => if target = scope then [.unset key] else []
  | clearTransient => if scope = .transient then [.clear] else []
  | seed format runMode extra =>
    if seeded = false ∧ scope = .persistent then seedChanges format runMode extra else []

/-- What some operations change in a scope, one after the other. -/
def changesFrom (scope : Scope) (seeded : Bool) : List RegistryOp → List OptionChange
  | [] => []
  | op :: rest => op.changes scope seeded ++ changesFrom scope (seeded || op.isSeed) rest

end RegistryOp

namespace OptionRegistry

open OptionMap

/-- The registry after an operation. A seeding that is refused leaves it as it is. -/
def apply (r : OptionRegistry) : RegistryOp → OptionRegistry
  | .set key value scope => r.set key value scope
  | .setExclusive group key _ scope => r.setExclusive group key scope
  | .unset key scope => r.unset key scope
  | .clearTransient => r.clearTransient
  | .seed format runMode extra =>
    match r.seed format runMode extra with
    | .ok seeded => seeded
    | .error _ => r

/-- The registry after some operations. -/
def run (ops : List RegistryOp) : OptionRegistry :=
  ops.foldl apply fresh

section
variable (r : OptionRegistry)

theorem inScope_modify (scope target : Scope) (f : OptionMap → OptionMap) :
    (r.modify target f).inScope scope = if target = scope then f (r.inScope scope) else r.inScope scope := by
  cases target <;> cases scope <;> rfl

theorem seeded_modify (target : Scope) (f : OptionMap → OptionMap) :
    (r.modify target f).seeded = r.seeded := by
  cases target <;> rfl

theorem seed_of_seeded (h : r.seeded = true) (format : DisplayMode) (runMode : RunMode)
    (extra : Option String) : r.seed format runMode extra = .error (.config .alreadySeeded) := by
  simp [seed, h]

/-- Options that are set in a scope one after the other. -/
theorem foldl_set {α : Type} (option : α → String × OptionValue) (scope : Scope) (items : List α)
    (r : OptionRegistry) :
    items.foldl (fun r item => r.set (option item).1 (option item).2 scope) r =
      r.modify scope
        ((items.map fun item => OptionChange.set (option item).1 (option item).2).foldl OptionMap.change) := by
  induction items generalizing r with
  | nil => cases scope <;> rfl
  | cons item rest ih =>
    rw [List.foldl_cons, ih]
    cases scope <;> rfl

/-- The first seeding changes the persistent options and nothing else. -/
theorem seed_of_not_seeded (h : r.seeded = false) (format : DisplayMode) (runMode : RunMode)
    (extra : Option String) :
    r.seed format runMode extra =
      .ok ⟨(RegistryOp.seedChanges format runMode extra).foldl OptionMap.change r.persistent,
        r.transient, true⟩ := by
  have hkeys := foldl_set (fun key => (key, .flag)) .persistent (format.key :: runMode.optionKeys)
    { r with seeded := true }
  have htokens := foldl_set parseOption .persistent (seedTokens (extra.getD ""))
  simp only [seed, h, Bool.false_eq_true, ↓reduceIte, setToken]
  rw [hkeys, htokens, RegistryOp.seedChanges, List.foldl_append, funext OptionChange.ofWord_eq]
  rfl

/-- What one operation does to a scope. -/
theorem inScope_apply (op : RegistryOp) (scope : Scope) :
    (r.apply op).inScope scope =
      (op.changes scope r.seeded).foldl OptionMap.change (r.inScope scope) := by
  cases op with
  | set key value target =>
    rw [apply, OptionRegistry.set, inScope_modify, RegistryOp.changes]
    split <;> rfl
  | setExclusive group key member target =>
    rw [apply, setExclusive, inScope_modify, RegistryOp.changes]
    split
    · exact (set_of_mem_keys member _ _).symm
    · rfl
  | unset key target =>
    rw [apply, unset, inScope_modify, RegistryOp.changes]
    split <;> rfl
  | clearTransient => cases scope <;> rfl
  | seed format runMode extra =>
    rw [apply, RegistryOp.changes]
    cases hseeded : r.seeded with
    | true => simp [seed_of_seeded r hseeded]
    | false =>
      rw [seed_of_not_seeded r hseeded]
      cases scope <;> simp [inScope]

theorem seeded_apply (op : RegistryOp) : (r.apply op).seeded = (r.seeded || op.isSeed) := by
  cases op with
  | set | setExclusive | unset => simp [apply, OptionRegistry.set, setExclusive, unset, seeded_modify,
      RegistryOp.isSeed]
  | clearTransient => simp [apply, clearTransient, RegistryOp.isSeed]
  | seed format runMode extra =>
    rw [apply]
    cases hseeded : r.seeded with
    | true => simp [seed_of_seeded r hseeded, hseeded]
    | false => simp [seed_of_not_seeded r hseeded, RegistryOp.isSeed]

/-- What operations one after the other do to a scope. -/
theorem inScope_foldl_apply (ops : List RegistryOp) (scope : Scope) :
    (ops.foldl apply r).inScope scope =
      (RegistryOp.changesFrom scope r.seeded ops).foldl OptionMap.change (r.inScope scope) := by
  induction ops generalizing r with
  | nil => rfl
  | cons op rest ih =>
    rw [List.foldl_cons, ih, inScope_apply, seeded_apply, RegistryOp.changesFrom, List.foldl_append]

theorem seeded_foldl_apply (ops : List RegistryOp) :
    (ops.foldl apply r).seeded = (r.seeded || ops.any RegistryOp.isSeed) := by
  induction ops generalizing r with
  | nil => simp
  | cons op rest ih => rw [List.foldl_cons, ih, seeded_apply, List.any_cons, Bool.or_assoc]

end

theorem inScope_run (ops : List RegistryOp) (scope : Scope) :
    (run ops).inScope scope =
      (RegistryOp.changesFrom scope false ops).foldl OptionMap.change .empty := by
  have hempty : fresh.inScope scope = .empty := by cases scope <;> rfl
  rw [run, inScope_foldl_apply, hempty]
  rfl

theorem exclusive_inScope_run (ops : List RegistryOp) (scope : Scope) :
    ((run ops).inScope scope).Exclusive := by
  rw [inScope_run]
  exact exclusive_empty.foldl_change _

end OptionRegistry

/-! ## What is in effect -/

namespace OptionMap

/-- Whether options hold a member of a group. -/
def holdsGroup (map : OptionMap) (group : OptionGroup) : Bool :=
  group.keys.any map.contains

/-- Whether options hold a member of the group of a key. -/
def holdsGroupOf (map : OptionMap) (key : String) : Bool :=
  (OptionGroup.ofKey? key).any map.holdsGroup

theorem holdsGroupOf_iff {map : OptionMap} {key : String} :
    map.holdsGroupOf key = true ↔ ∃ entry ∈ map.entries, clears entry.1 key = true := by
  simp only [holdsGroupOf, holdsGroup, Option.any_eq_true, List.any_eq_true,
    OptionGroup.ofKey?_eq_some_iff, clears_iff, contains_iff]
  constructor
  · rintro ⟨group, hkey, other, hother, value, hget⟩
    exact ⟨(other, value), Dict.mem_of_get? hget, group, hother, hkey⟩
  · rintro ⟨entry, hentry, group, hother, hkey⟩
    exact ⟨group, hkey, entry.1, hother, entry.2, Dict.get?_of_mem hentry⟩

section
variable {map : OptionMap}

/-- The active member of a group is the one that is there. -/
theorem Exclusive.active?_eq_some_iff (h : map.Exclusive) {group : OptionGroup} {key : String} :
    map.active? group = some key ↔ key ∈ group.keys ∧ map.contains key = true := by
  constructor
  · intro hactive
    exact ⟨List.mem_of_find?_eq_some hactive, List.find?_some hactive⟩
  · rintro ⟨hkey, hcontains⟩
    have hsome : (group.keys.find? map.contains).isSome := List.find?_isSome.mpr ⟨key, hkey, hcontains⟩
    obtain ⟨other, hother⟩ := Option.isSome_iff_exists.mp hsome
    have hsame := h.single group key hkey other (List.mem_of_find?_eq_some hother) hcontains
      (List.find?_some hother)
    rw [active?, hother, hsame]

theorem Exclusive.displayMode?_eq_some_iff (h : map.Exclusive) {mode : DisplayMode} :
    map.displayMode? = some mode ↔ map.contains mode.key = true := by
  have hmember : mode.key ∈ OptionGroup.format.keys := by cases mode <;> decide
  rw [displayMode?, Option.bind_eq_some_iff]
  constructor
  · rintro ⟨key, hactive, hmode⟩
    have hkey : mode.key = key := by simpa using List.find?_some hmode
    rw [hkey]
    exact (h.active?_eq_some_iff.mp hactive).2
  · intro hcontains
    exact ⟨mode.key, h.active?_eq_some_iff.mpr ⟨hmember, hcontains⟩, DisplayMode.ofKey?_key mode⟩

end

end OptionMap

namespace OptionRegistry

open OptionMap

section
variable {r : OptionRegistry} (h : r.transient.Exclusive)
include h

theorem get?_effective_of_exclusive (key : String) :
    r.effective.get? key =
      match r.transient.get? key with
      | some value => some value
      | none => if r.transient.holdsGroupOf key then none else r.persistent.get? key := by
  cases hget : r.transient.get? key with
  | some value =>
    rw [get?_effective_of_spared, hget]
    · rfl
    · intro entry hentry hclears
      obtain ⟨group, hother, hkey⟩ := clears_iff.mp hclears
      exact h.single group entry.1 hother key hkey
        (contains_iff.mpr ⟨entry.2, Dict.get?_of_mem hentry⟩) (contains_iff.mpr ⟨value, hget⟩)
  | none =>
    cases hgroup : r.transient.holdsGroupOf key with
    | true =>
      obtain ⟨entry, hentry, hclears⟩ := holdsGroupOf_iff.mp hgroup
      exact get?_effective_of_cleared hentry hclears hget
    | false =>
      rw [get?_effective_of_spared, hget]
      · rfl
      · intro entry hentry hclears
        rw [holdsGroupOf_iff.mpr ⟨entry, hentry, hclears⟩] at hgroup
        cases hgroup

/-- A group is in effect as the transient options have it, or else as the persistent ones have it. -/
theorem contains_effective_of_mem_keys {group : OptionGroup} {key : String} (hkey : key ∈ group.keys) :
    r.effective.contains key =
      if r.transient.holdsGroup group then r.transient.contains key else r.persistent.contains key := by
  have hholds : r.transient.holdsGroupOf key = r.transient.holdsGroup group := by
    rw [holdsGroupOf, OptionGroup.ofKey?_eq_some_iff.mpr hkey, Option.any_some]
  rw [Dict.contains, get?_effective_of_exclusive h, hholds]
  cases hget : r.transient.get? key with
  | some value =>
    have hcontains : r.transient.contains key = true := contains_iff.mpr ⟨value, hget⟩
    have hgroup : r.transient.holdsGroup group = true := List.any_eq_true.mpr ⟨key, hkey, hcontains⟩
    simp [hgroup, hcontains]
  | none =>
    have hnot : r.transient.contains key = false := by rw [Dict.contains, hget]; rfl
    cases r.transient.holdsGroup group with
    | true => simp [hnot]
    | false => rfl

/-- What is in effect is exclusive if both scopes are. -/
theorem exclusive_effective (hpersistent : r.persistent.Exclusive) : r.effective.Exclusive where
  flag := by
    intro group key hkey value hget
    rw [get?_effective_of_exclusive h] at hget
    split at hget
    · rename_i v hv
      exact h.flag group key hkey value (hv.trans hget)
    · split at hget
      · cases hget
      · exact hpersistent.flag group key hkey value hget
  single := by
    intro group a ha b hb hca hcb
    rw [contains_effective_of_mem_keys h ha] at hca
    rw [contains_effective_of_mem_keys h hb] at hcb
    by_cases hgroup : r.transient.holdsGroup group = true
    · rw [if_pos hgroup] at hca hcb
      exact h.single group a ha b hb hca hcb
    · rw [if_neg hgroup] at hca hcb
      exact hpersistent.single group a ha b hb hca hcb

end

theorem exclusive_effective_run (ops : List RegistryOp) : (run ops).effective.Exclusive :=
  exclusive_effective (exclusive_inScope_run ops .transient) (exclusive_inScope_run ops .persistent)

/-- How the groups of a registry stand after some operations. -/
structure GroupsAfter (ops : List RegistryOp) (r : OptionRegistry) : Prop where
  /-- A scope holds the member of a group that was set last, as a flag, unless it was taken away since. -/
  held : ∀ scope, ∀ group : OptionGroup, ∀ key ∈ group.keys, ∀ value,
    (r.inScope scope).get? key = some value ↔
      value = .flag ∧ StandsIn group key (RegistryOp.changesFrom scope false ops)
  exclusive : ∀ scope, (r.inScope scope).Exclusive
  /-- The first seeding succeeds, and later ones fail and change nothing. -/
  seeding : ∀ format runMode extra,
    if ops.any RegistryOp.isSeed then
      r.seed format runMode extra = .error (.config .alreadySeeded) ∧
        r.apply (.seed format runMode extra) = r
    else
      r.seed format runMode extra = .ok (r.apply (.seed format runMode extra))
  /-- Transient options come before persistent ones, and hide those of their groups. -/
  inEffect : ∀ key, r.effective.get? key =
    match r.transient.get? key with
    | some value => some value
    | none => if r.transient.holdsGroupOf key then none else r.persistent.get? key
  exclusiveEffect : r.effective.Exclusive
  active : ∀ (group : OptionGroup) (key : String),
    r.active? group = some key ↔ key ∈ group.keys ∧ r.effective.contains key = true
  mode : ∀ mode : DisplayMode, r.effective.displayMode? = some mode ↔ r.effective.contains mode.key = true

/-- Whatever is done to a registry, groups are exclusive, and the member that was set last is the one that is
active. -/
theorem run_holds_last_set (ops : List RegistryOp) : GroupsAfter ops (run ops) := by
  have htransient : (run ops).transient.Exclusive := exclusive_inScope_run ops .transient
  have heffective := exclusive_effective_run ops
  constructor
  case held =>
    intro scope group key hkey value
    rw [inScope_run]
    exact get?_foldl_change hkey
  case exclusive => exact exclusive_inScope_run ops
  case seeding =>
    intro format runMode extra
    have hseeded : (run ops).seeded = ops.any RegistryOp.isSeed := by
      rw [run, seeded_foldl_apply]
      rfl
    split
    · rename_i hseed
      have hrefused := seed_of_seeded (run ops) (hseeded.trans hseed) format runMode extra
      refine ⟨hrefused, ?_⟩
      rw [apply, hrefused]
    · rename_i hseed
      have haccepted := seed_of_not_seeded (run ops)
        (hseeded.trans (Bool.not_eq_true _ ▸ hseed)) format runMode extra
      rw [apply, haccepted]
  case inEffect => exact get?_effective_of_exclusive htransient
  case exclusiveEffect => exact heffective
  case active =>
    intro group key
    exact heffective.active?_eq_some_iff
  case mode =>
    intro mode
    exact heffective.displayMode?_eq_some_iff

/-- The text of the first seeding switches the display mode, since one of its words is an option and one is not. A
second seeding changes nothing, and what is unset is no longer active. -/
theorem run_holds_last_set_seeded :
    let ops : List RegistryOp := [.set "nowrap" (.text "1") .persistent,
      .seed .wrap .both (some "vertical -tab --limit=5=6  -o=x"), .seed .vertical .run (some "-vertical"),
      .setExclusive .connective "a" (by decide) .transient, .unset "a" .transient, .set "3v" (.text "no") .transient]
    RegistryOp.changesFrom .persistent false ops = [.set "nowrap" (.text "1"), .set "wrap" .flag, .set "q" .flag,
        .set "r" .flag, .set "tab" .flag, .set "limit" (.text "5=6"), .set "o" (.text "x")] ∧
      (run ops).persistent.get? "tab" = some .flag ∧ (run ops).persistent.contains "wrap" = false ∧
      (run ops).active? .format = some "tab" ∧ (run ops).effective.displayMode? = some .tab ∧
      (run ops).active? .connective = some "o" ∧ (run ops).active? .logic = some "3v" ∧
      GroupsAfter ops (run ops) := by
  intro ops
  have hchanges : RegistryOp.changesFrom .persistent false ops = [.set "nowrap" (.text "1"), .set "wrap" .flag,
      .set "q" .flag, .set "r" .flag, .set "tab" .flag, .set "limit" (.text "5=6"), .set "o" (.text "x")] := by
    decide +kernel
  have h := run_holds_last_set ops
  have hstands : StandsIn .format "tab" (RegistryOp.changesFrom .persistent false ops) := by
    refine ⟨[.set "nowrap" (.text "1"), .set "wrap" .flag, .set "q" .flag, .set "r" .flag], .flag,
      [.set "limit" (.text "5=6"), .set "o" (.text "x")], hchanges, ?_⟩
    simp [OptionChange.Spares, OptionGroup.keys]
  have hmode : (run ops).effective.displayMode? = some .tab := (h.mode .tab).mpr (by decide +kernel)
  exact ⟨hchanges, (h.held .persistent .format "tab" (by decide) .flag).mpr ⟨rfl, hstands⟩, by decide +kernel,
    (h.active .format "tab").mpr ⟨by decide, by decide +kernel⟩, hmode,
    (h.active .connective "o").mpr ⟨by decide, by decide +kernel⟩,
    (h.active .logic "3v").mpr ⟨by decide, by decide +kernel⟩, h⟩

end OptionRegistry

end TerseQuery
