/-!
# Dictionaries

A finite map from names to values, held in strictly increasing order of names (by code point). So two
dictionaries that answer every look-up alike are equal, and listing one is listing it in order.

* `ext_get?`: equal answers make equal dictionaries.
* `get?_insert`, `get?_erase`: what a change does to the answers.
* `isSorted_insertEntry`: the order is kept by an insertion.
-/
namespace TerseQuery

/-- The value of the entry named `key`. -/
def findEntry {α : Type} (key : String) : List (String × α) → Option α
  | [] => none
  | entry :: rest => if entry.1 = key then some entry.2 else findEntry key rest

/-- Entries with the value of `key` set, at its place in the order of names. -/
def insertEntry {α : Type} (key : String) (value : α) : List (String × α) → List (String × α)
  | [] => [(key, value)]
  | entry :: rest =>
    if key < entry.1 then (key, value) :: entry :: rest
    else if entry.1 = key then (key, value) :: rest
    else entry :: insertEntry key value rest

/-- Strictly increasing names. -/
def IsSorted {α : Type} (entries : List (String × α)) : Prop :=
  entries.Pairwise fun a b => a.1 < b.1

/-- Entries in order of names; of entries with one name the last counts. -/
def sortEntries {α : Type} (entries : List (String × α)) : List (String × α) :=
  entries.foldl (fun sorted entry => insertEntry entry.1 entry.2 sorted) []

/-- A finite map from names to values. -/
structure Dict (α : Type) where
  /-- The entries, in order of names. -/
  entries : List (String × α)
  sorted : IsSorted entries

variable {α β : Type}

/-! ## Entries in order -/

theorem mem_insertEntry {key : String} {value : α} {entries : List (String × α)}
    {entry : String × α} (h : entry ∈ insertEntry key value entries) :
    entry = (key, value) ∨ entry ∈ entries := by
  induction entries with
  | nil => simpa [insertEntry] using h
  | cons first rest ih =>
    unfold insertEntry at h
    split at h
    · simpa using h
    · split at h
      · rcases List.mem_cons.1 h with same | later
        · exact .inl same
        · exact .inr (List.mem_cons_of_mem _ later)
      · rcases List.mem_cons.1 h with same | later
        · exact .inr (by simp [same])
        · exact (ih later).imp_right (List.mem_cons_of_mem _)

theorem isSorted_insertEntry (key : String) (value : α) {entries : List (String × α)}
    (h : IsSorted entries) : IsSorted (insertEntry key value entries) := by
  induction entries with
  | nil => simp [insertEntry, IsSorted]
  | cons first rest ih =>
    obtain ⟨above, tail⟩ := List.pairwise_cons.1 h
    unfold insertEntry
    split
    · rename_i below
      refine List.pairwise_cons.2 ⟨fun entry member => ?_, h⟩
      rcases List.mem_cons.1 member with rfl | later
      · exact below
      · exact String.lt_trans below (above entry later)
    · split
      · rename_i same
        exact List.pairwise_cons.2 ⟨fun entry member => same ▸ above entry member, tail⟩
      · rename_i notBelow other
        refine List.pairwise_cons.2 ⟨fun entry member => ?_, ih tail⟩
        rcases mem_insertEntry member with rfl | later
        · rcases String.le_total key first.1 with le | le
          · exact absurd (String.le_antisymm (String.not_lt.1 notBelow) le) other
          · exact String.not_le.1 fun ge => other (String.le_antisymm le ge)
        · exact above entry later

theorem mem_of_mem_sortEntries {entry : String × α} {entries : List (String × α)}
    (h : entry ∈ sortEntries entries) : entry ∈ entries := by
  suffices ∀ sorted : List (String × α),
      entry ∈ entries.foldl (fun sorted entry => insertEntry entry.1 entry.2 sorted) sorted →
        entry ∈ sorted ∨ entry ∈ entries from (this [] h).resolve_left (by simp)
  clear h
  induction entries with
  | nil => exact fun _ member => .inl member
  | cons first rest ih =>
    intro sorted member
    rcases ih _ member with inserted | later
    · rcases mem_insertEntry inserted with same | before
      · exact .inr (List.mem_cons.2 (.inl same))
      · exact .inl before
    · exact .inr (List.mem_cons_of_mem _ later)

theorem isSorted_foldl_insertEntry (entries : List (String × α)) {sorted : List (String × α)}
    (h : IsSorted sorted) :
    IsSorted (entries.foldl (fun sorted entry => insertEntry entry.1 entry.2 sorted) sorted) := by
  induction entries generalizing sorted with
  | nil => exact h
  | cons entry rest ih => exact ih (isSorted_insertEntry _ _ h)

theorem isSorted_sortEntries (entries : List (String × α)) : IsSorted (sortEntries entries) :=
  isSorted_foldl_insertEntry entries List.Pairwise.nil

theorem findEntry_insertEntry (key other : String) (value : α) (entries : List (String × α)) :
    findEntry other (insertEntry key value entries) =
      if key = other then some value else findEntry other entries := by
  induction entries with
  | nil => simp [insertEntry, findEntry]
  | cons first rest ih =>
    unfold insertEntry
    split
    · simp [findEntry]
    · split
      · rename_i same
        subst same
        by_cases h : first.1 = other <;> simp [findEntry, h]
      · rename_i different
        by_cases h : first.1 = other
        · subst h
          simp [findEntry, Ne.symm different]
        · simp [findEntry, h, ih]

theorem findEntry_eq_none_of_forall_lt {key : String} {entries : List (String × α)}
    (h : ∀ entry ∈ entries, key < entry.1) : findEntry key entries = none := by
  induction entries with
  | nil => rfl
  | cons first rest ih =>
    have different : first.1 ≠ key := fun same =>
      String.lt_irrefl key (by simpa [same] using h first (by simp))
    simp [findEntry, different, ih fun entry member => h entry (List.mem_cons_of_mem _ member)]

/-- A name that is found is not below the first name. -/
theorem head_le_of_findEntry {key : String} {value : α} {first : String × α}
    {rest : List (String × α)} (h : IsSorted (first :: rest))
    (found : findEntry key (first :: rest) = some value) : first.1 ≤ key := by
  refine String.not_lt.1 fun below => ?_
  have missing : findEntry key (first :: rest) = none :=
    findEntry_eq_none_of_forall_lt fun entry member => by
      rcases List.mem_cons.1 member with rfl | later
      · exact below
      · exact String.lt_trans below ((List.pairwise_cons.1 h).1 entry later)
  rw [missing] at found
  simp at found

theorem entries_eq_of_findEntry_eq {a b : List (String × α)} (ha : IsSorted a) (hb : IsSorted b)
    (h : ∀ key, findEntry key a = findEntry key b) : a = b := by
  induction a generalizing b with
  | nil =>
    cases b with
    | nil => rfl
    | cons first rest => simpa [findEntry] using h first.1
  | cons first rest ih =>
    cases b with
    | nil => simpa [findEntry] using h first.1
    | cons first' rest' =>
      obtain ⟨above, tail⟩ := List.pairwise_cons.1 ha
      obtain ⟨above', tail'⟩ := List.pairwise_cons.1 hb
      have same : first.1 = first'.1 :=
        String.le_antisymm
          (head_le_of_findEntry ha (show _ = some first'.2 by rw [h]; simp [findEntry]))
          (head_le_of_findEntry hb (show _ = some first.2 by rw [← h]; simp [findEntry]))
      have value : first.2 = first'.2 := by simpa [findEntry, same] using h first.1
      have tails : rest = rest' := ih tail tail' fun key => by
        by_cases here : first.1 = key
        · subst here
          rw [findEntry_eq_none_of_forall_lt above,
            findEntry_eq_none_of_forall_lt (same ▸ above')]
        · simpa [findEntry, here, same ▸ here] using h key
      rw [tails, Prod.ext same value]

theorem findEntry_filter_ne (key other : String) (entries : List (String × α)) :
    findEntry other (entries.filter fun entry => entry.1 ≠ key) =
      if key = other then none else findEntry other entries := by
  induction entries with
  | nil => simp [findEntry]
  | cons first rest ih =>
    by_cases same : first.1 = key
    · rw [List.filter_cons_of_neg (by simp [same]), ih]
      by_cases h : key = other
      · simp [h]
      · simp [h, findEntry, same]
    · rw [List.filter_cons_of_pos (by simp [same])]
      by_cases h : first.1 = other
      · have different : key ≠ other := fun e => same (h.trans e.symm)
        simp [findEntry, h, different]
      · simp only [findEntry, h, if_false, ih]

theorem findEntry_map (f : α → β) (key : String) (entries : List (String × α)) :
    findEntry key (entries.map fun entry => (entry.1, f entry.2)) =
      (findEntry key entries).map f := by
  induction entries with
  | nil => rfl
  | cons first rest ih => by_cases h : first.1 = key <;> simp [findEntry, h, ih]

theorem mem_of_findEntry {key : String} {value : α} {entries : List (String × α)}
    (h : findEntry key entries = some value) : (key, value) ∈ entries := by
  induction entries with
  | nil => simp [findEntry] at h
  | cons first rest ih =>
    by_cases same : first.1 = key
    · simp only [findEntry, same, if_true, Option.some.injEq] at h
      exact List.mem_cons.2 (.inl (Prod.ext same.symm h.symm))
    · simp only [findEntry, same, if_false] at h
      exact List.mem_cons_of_mem _ (ih h)

theorem filter_entries_eq {entries : List (String × α)} (h : IsSorted entries) (key : String) :
    entries.filter (·.1 = key) = ((findEntry key entries).map (key, ·)).toList := by
  induction entries with
  | nil => rfl
  | cons first rest ih =>
    obtain ⟨habove, hrest⟩ := List.pairwise_cons.mp h
    by_cases hsame : first.1 = key
    · subst hsame
      have hnone : findEntry first.1 rest = none := findEntry_eq_none_of_forall_lt habove
      simp [findEntry, ih hrest, hnone]
    · simp [findEntry, hsame, ih hrest]

theorem findEntry_eq_none_of_not_mem {key : String} {entries : List (String × α)}
    (h : key ∉ entries.map Prod.fst) : findEntry key entries = none := by
  induction entries with
  | nil => rfl
  | cons first rest ih =>
    simp only [List.map_cons, List.mem_cons, not_or] at h
    simp [findEntry, Ne.symm h.1, ih h.2]

@[simp] theorem findEntry_append (key : String) (a b : List (String × α)) :
    findEntry key (a ++ b) = (findEntry key a).or (findEntry key b) := by
  induction a with
  | nil => rfl
  | cons first rest ih => by_cases h : first.1 = key <;> simp [findEntry, h, ih]

theorem IsSorted.nodup {entries : List (String × α)} (h : IsSorted entries) :
    (entries.map Prod.fst).Nodup := by
  rw [List.Nodup, List.pairwise_map]
  refine h.imp fun {a b} below same => ?_
  rw [same] at below
  exact String.lt_irrefl b.1 below

theorem findEntry_foldl_insertEntry {entries : List (String × α)} (h : (entries.map Prod.fst).Nodup)
    (key : String) (sorted : List (String × α)) :
    findEntry key (entries.foldl (fun sorted entry => insertEntry entry.1 entry.2 sorted) sorted) =
      (findEntry key entries).or (findEntry key sorted) := by
  induction entries generalizing sorted with
  | nil => rfl
  | cons first rest ih =>
    obtain ⟨once, others⟩ := List.nodup_cons.1 h
    rw [List.foldl_cons, ih others, findEntry_insertEntry]
    by_cases here : first.1 = key
    · rw [findEntry_eq_none_of_not_mem (here ▸ once)]
      simp [findEntry, here]
    · simp [findEntry, here]

/-- Where each name has one entry, sorting changes no answer. -/
theorem findEntry_sortEntries {entries : List (String × α)} (h : (entries.map Prod.fst).Nodup)
    (key : String) : findEntry key (sortEntries entries) = findEntry key entries := by
  rw [sortEntries, findEntry_foldl_insertEntry h, findEntry, Option.or_none]

theorem sortEntries_of_isSorted {entries : List (String × α)} (h : IsSorted entries) :
    sortEntries entries = entries :=
  entries_eq_of_findEntry_eq (isSorted_sortEntries entries) h fun key => findEntry_sortEntries h.nodup key

namespace Dict

/-! ## Look-up and change -/

/-- The dictionary without entries. -/
def empty : Dict α := ⟨[], List.Pairwise.nil⟩

instance : Inhabited (Dict α) := ⟨empty⟩

instance : EmptyCollection (Dict α) := ⟨empty⟩

/-- The value of a name. -/
def get? (d : Dict α) (key : String) : Option α :=
  findEntry key d.entries

/-- Whether a name has a value. -/
def contains (d : Dict α) (key : String) : Bool :=
  (d.get? key).isSome

/-- The dictionary with one name set. -/
def insert (d : Dict α) (key : String) (value : α) : Dict α :=
  ⟨insertEntry key value d.entries, isSorted_insertEntry key value d.sorted⟩

/-- The dictionary without one name. -/
def erase (d : Dict α) (key : String) : Dict α :=
  ⟨d.entries.filter fun entry => entry.1 ≠ key, d.sorted.filter _⟩

/-- The dictionary of some entries; of entries with one name the last counts. -/
def ofList (entries : List (String × α)) : Dict α :=
  ⟨sortEntries entries, isSorted_sortEntries entries⟩

/-- The dictionary with each value changed. -/
def map (f : α → β) (d : Dict α) : Dict β :=
  ⟨d.entries.map fun entry => (entry.1, f entry.2), by
    simpa [IsSorted, List.pairwise_map] using d.sorted⟩

instance [DecidableEq α] : DecidableEq (Dict α) := fun a b =>
  if h : a.entries = b.entries then
    isTrue (by cases a; cases b; simpa using h)
  else
    isFalse fun same => h (same ▸ rfl)

theorem ext_entries {a b : Dict α} (h : a.entries = b.entries) : a = b := by
  cases a; cases b; simpa using h

/-- Dictionaries with the same answers are equal. -/
theorem ext_get? {a b : Dict α} (h : ∀ key, a.get? key = b.get? key) : a = b :=
  ext_entries (entries_eq_of_findEntry_eq a.sorted b.sorted h)

@[simp] theorem get?_empty (key : String) : (empty : Dict α).get? key = none := rfl

theorem get?_insert (d : Dict α) (key other : String) (value : α) :
    (d.insert key value).get? other = if key = other then some value else d.get? other :=
  findEntry_insertEntry key other value d.entries

theorem get?_erase (d : Dict α) (key other : String) :
    (d.erase key).get? other = if key = other then none else d.get? other :=
  findEntry_filter_ne key other d.entries

theorem get?_map (f : α → β) (d : Dict α) (key : String) :
    (d.map f).get? key = (d.get? key).map f :=
  findEntry_map f key d.entries

theorem mem_of_get? {d : Dict α} {key : String} {value : α} (h : d.get? key = some value) :
    (key, value) ∈ d.entries :=
  mem_of_findEntry h

theorem get?_of_mem {d : Dict α} {entry : String × α} (h : entry ∈ d.entries) :
    d.get? entry.1 = some entry.2 := by
  have hmem : entry ∈ d.entries.filter (·.1 = entry.1) := List.mem_filter.mpr ⟨h, by simp⟩
  rw [filter_entries_eq d.sorted, Option.mem_toList, Option.map_eq_some_iff] at hmem
  obtain ⟨value, hvalue, hentry⟩ := hmem
  rw [← hentry]
  exact hvalue

end Dict

end TerseQuery
