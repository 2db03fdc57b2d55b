import Mathlib.Data.List.Induction
import TerseQuery.Options.Registry

/-!
# Options put one after the other

Setting an option removes the others of its group, so what is in effect depends on the order of settings.
Options that are in no group with the key that is asked for do not matter for it.

* `get?_foldl_put`: of the options put that leave a key alone, the last one with that key counts;
* `get?_foldl_put_eq_none`: a key that is cleared and not put again is gone;
* `get?_effective_of_spared`, `get?_effective_of_cleared`: transient options are in effect before persistent
  ones, and those of a group hide the persistent ones of their group.
-/

namespace TerseQuery

namespace OptionMap

/-- Whether setting one key removes another, as both are in one group. -/
def clears (key other : String) : Bool :=
  (OptionGroup.ofKey? key).any fun group => group.keys.contains other

theorem get?_put (map : OptionMap) (key other : String) (value : OptionValue) :
    (map.put key value).get? other =
      if key = other then some value else if clears key other then none else map.get? other := by
  unfold put clears
  cases OptionGroup.ofKey? key with
  | none => simp [Dict.get?_insert]
  | some group => simp [Dict.get?_insert, clearGroup, get?_eraseAll]

/-- The value that some settings give a key in the end. -/
def lastValue? (key : String) (entries : List (String × OptionValue)) : Option OptionValue :=
  (entries.filter (·.1 = key)).getLast?.map Prod.snd

theorem lastValue?_cons (key : String) (first : String × OptionValue)
    (rest : List (String × OptionValue)) :
    lastValue? key (first :: rest) =
      (lastValue? key rest).or (if first.1 = key then some first.2 else none) := by
  unfold lastValue?
  by_cases hsame : first.1 = key
  · rw [if_pos hsame, List.filter_cons_of_pos (by simpa using hsame), List.getLast?_cons]
    cases (rest.filter (·.1 = key)).getLast? <;> rfl
  · simp [hsame]

theorem get?_foldl_put {entries : List (String × OptionValue)} {key : String}
    (h : ∀ entry ∈ entries, clears entry.1 key = true → entry.1 = key) (map : OptionMap) :
    Dict.get? (entries.foldl (fun (map : OptionMap) entry => map.put entry.1 entry.2) map) key =
      (lastValue? key entries).or (map.get? key) := by
  induction entries generalizing map with
  | nil => rfl
  | cons first rest ih =>
    rw [List.foldl_cons, ih fun entry hentry => h entry (List.mem_cons_of_mem _ hentry), get?_put,
      lastValue?_cons]
    by_cases hsame : first.1 = key
    · simp [hsame]
    · have hkept : clears first.1 key = false := by
        cases hclears : clears first.1 key with
        | false => rfl
        | true => exact absurd (h first List.mem_cons_self hclears) hsame
      simp [hsame, hkept]

/-- What is cleared and not put again is gone. -/
theorem get?_foldl_put_eq_none {entries : List (String × OptionValue)} {key : String}
    (habsent : ∀ entry ∈ entries, entry.1 ≠ key) {map : OptionMap}
    (hcleared : map.get? key = none ∨ ∃ entry ∈ entries, clears entry.1 key = true) :
    Dict.get? (entries.foldl (fun (map : OptionMap) entry => map.put entry.1 entry.2) map) key =
      none := by
  induction entries generalizing map with
  | nil =>
    rcases hcleared with hnone | ⟨entry, hentry, -⟩
    · exact hnone
    · cases hentry
  | cons first rest ih =>
    have hput := get?_put map first.1 key first.2
    rw [if_neg (habsent first List.mem_cons_self)] at hput
    refine ih (fun entry hentry => habsent entry (List.mem_cons_of_mem _ hentry)) ?_
    rcases hcleared with hnone | ⟨entry, hentry, hclears⟩
    · left
      rw [hput, hnone, ite_self]
    · rcases List.mem_cons.mp hentry with rfl | hrest
      · left
        rw [hput, if_pos hclears]
      · exact .inr ⟨entry, hrest, hclears⟩

theorem exists_of_mem_foldl_put {entries : List (String × OptionValue)} {entry : String × OptionValue}
    (h : entry ∈ (entries.foldl (fun (map : OptionMap) entry => map.put entry.1 entry.2) .empty).entries) :
    ∃ other ∈ entries, other.1 = entry.1 := by
  induction entries using List.reverseRecOn with
  | nil => cases h
  | append_singleton entries last ih =>
    rw [List.foldl_append] at h
    have hget := Dict.get?_of_mem h
    rw [List.foldl_cons, List.foldl_nil, get?_put] at hget
    split at hget
    · rename_i hsame
      exact ⟨last, by simp, hsame⟩
    · split at hget
      · cases hget
      · obtain ⟨other, hother, hsame⟩ := ih (Dict.mem_of_get? hget)
        exact ⟨other, by simp [hother], hsame⟩

end OptionMap

namespace OptionRegistry

open OptionMap

/-- A key that no other transient option clears is in effect as it was set last. -/
theorem get?_effective_of_spared {r : OptionRegistry} {key : String}
    (h : ∀ entry ∈ r.transient.entries, clears entry.1 key = true → entry.1 = key) :
    r.effective.get? key = (r.transient.get? key).or (r.persistent.get? key) := by
  rw [effective, get?_foldl_put h, lastValue?, filter_entries_eq r.transient.sorted]
  have hget : r.transient.get? key = findEntry key r.transient.entries := rfl
  rw [hget]
  cases findEntry key r.transient.entries <;> rfl

/-- A key that another transient option clears is not in effect. -/
theorem get?_effective_of_cleared {r : OptionRegistry} {key : String} {entry : String × OptionValue}
    (hentry : entry ∈ r.transient.entries) (hclears : clears entry.1 key = true)
    (hnone : r.transient.get? key = none) : r.effective.get? key = none := by
  refine get?_foldl_put_eq_none ?_ (.inr ⟨entry, hentry, hclears⟩)
  intro other hother hsame
  have hget := Dict.get?_of_mem hother
  rw [hsame, hnone] at hget
  cases hget

theorem get?_effective {r : OptionRegistry} {key : String} (hpersistent : r.persistent = .empty)
    (h : ∀ entry ∈ r.transient.entries, clears entry.1 key = true → entry.1 = key) :
    r.effective.get? key = r.transient.get? key := by
  rw [get?_effective_of_spared h, hpersistent]
  exact Option.or_none

end OptionRegistry

end TerseQuery
