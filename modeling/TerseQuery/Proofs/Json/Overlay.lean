import TerseQuery.Json.Overlay
import TerseQuery.Json.Decoding
import TerseQuery.Proofs.Json.Ordering
import TerseQuery.Proofs.ListLemmas

/-!
# What an overlay leaves and what it changes

* `findEntry_overlayFields`, `field?_overlay`: each field of a record is overlaid for itself, whatever the other
  fields are;
* `isOrdered_overlay`: values in order give a value in order;
* `overlay_empty`: laid over the empty record, a value in order is what it was;
* `dictOf?_overlay?`: dictionaries that are overlaid keep the names of both, and the upper one decides.
-/

namespace TerseQuery

namespace Json

/-- What a field is after an overlay, from what it was and what is laid over it. -/
def overlay? (base top : Option Json) : Option Json :=
  match top, base with
  | none, base => base
  | some top, none => some top
  | some top, some base => some (overlay base top)

@[simp] theorem overlay?_none_right (base : Option Json) : overlay? base none = base := rfl

@[simp] theorem overlay?_none_left (top : Option Json) : overlay? none top = top := by
  cases top <;> rfl

theorem overlay?_of_not_record (base : Option Json) {top : Json} (h : ∀ fields, top ≠ .record fields) :
    overlay? base (some top) = some top := by
  cases base with
  | none => rfl
  | some base => rw [overlay?, overlay_of_not_record h]

@[simp] theorem overlay?_text (base : Option Json) (s : String) :
    overlay? base (some (.text s)) = some (.text s) :=
  overlay?_of_not_record base nofun

/-- One field laid over the fields of a record. -/
theorem overlayFields_cons (base : List (String × Json)) (name : String) (value : Json)
    (rest : List (String × Json)) :
    overlayFields base ((name, value) :: rest) =
      overlayFields (insertEntry name ((findEntry name base).elim value (overlay · value)) base) rest := by
  rw [overlayFields]
  cases findEntry name base <;> rfl

theorem isSorted_overlayFields {base : List (String × Json)} (h : IsSorted base)
    (top : List (String × Json)) : IsSorted (overlayFields base top) := by
  induction top generalizing base with
  | nil => exact h
  | cons field rest ih =>
    rw [overlayFields_cons]
    exact ih (isSorted_insertEntry _ _ h)

/-- Each field is overlaid for itself. -/
theorem findEntry_overlayFields {base top : List (String × Json)} (h : IsSorted top) (name : String) :
    findEntry name (overlayFields base top) = overlay? (findEntry name base) (findEntry name top) := by
  induction top generalizing base with
  | nil => rfl
  | cons field rest ih =>
    obtain ⟨key, value⟩ := field
    obtain ⟨habove, hrest⟩ := List.pairwise_cons.mp h
    rw [overlayFields_cons, ih hrest, findEntry_insertEntry]
    by_cases hkey : key = name
    · subst hkey
      rw [findEntry_eq_none_of_forall_lt habove]
      cases hbase : findEntry key base <;> simp [findEntry, overlay?]
    · simp [findEntry, hkey]

/-- A record stays a record, whatever it is laid over. -/
theorem exists_overlay_record (base : Json) (fields : List (String × Json)) :
    ∃ merged, overlay base (.record fields) = .record merged := by
  cases base <;> exact ⟨_, rfl⟩

/-- A value that is no record has no fields to be overlaid. -/
theorem field?_overlay (base : Json) {fields : List (String × Json)} (h : IsSorted fields) (name : String) :
    (overlay base (.record fields)).field? name = overlay? (base.field? name) (findEntry name fields) := by
  cases base with
  | record below => exact findEntry_overlayFields h name
  | _ => exact (overlay?_none_left _).symm

mutual

/-- A value in order laid over a value in order gives one. -/
theorem isOrdered_overlay {base : Json} (hbase : isOrdered base = true) :
    ∀ top : Json, isOrdered top = true → isOrdered (overlay base top) = true
  | .record fields, htop => by
    cases base with
    | record below =>
      obtain ⟨hsorted, hbelow⟩ := isOrdered_record.mp hbase
      rw [overlay, isOrdered_record]
      exact ⟨isSorted_overlayFields hsorted fields,
        isOrdered_overlayFields hbelow fields (isOrdered_record.mp htop).2⟩
    | _ => exact htop
  | .null, htop | .bool _, htop | .integer _, htop | .real _, htop | .text _, htop | .list _, htop => htop

theorem isOrdered_overlayFields {base : List (String × Json)} (hbase : ∀ field ∈ base, isOrdered field.2 = true) :
    ∀ top : List (String × Json), (∀ field ∈ top, isOrdered field.2 = true) →
      ∀ field ∈ overlayFields base top, isOrdered field.2 = true
  | [], _ => hbase
  | (name, value) :: rest, htop => by
    obtain ⟨hvalue, hrest⟩ := List.forall_mem_cons.mp htop
    rw [overlayFields_cons]
    refine isOrdered_overlayFields (fun field hfield => ?_) rest hrest
    rcases mem_insertEntry hfield with rfl | hbefore
    · cases hbelow : findEntry name base with
      | none => exact hvalue
      | some below => exact isOrdered_overlay (hbase _ (mem_of_findEntry hbelow)) value hvalue
    · exact hbase field hbefore

end

/-- A value in order is not changed when it is laid over the empty record. -/
theorem overlay_empty {top : Json} (h : isOrdered top = true) : overlay (.record []) top = top := by
  cases top with
  | record fields =>
    have hsorted := (isOrdered_record.mp h).1
    have hempty : IsSorted ([] : List (String × Json)) := List.Pairwise.nil
    rw [overlay, entries_eq_of_findEntry_eq (isSorted_overlayFields hempty fields) hsorted]
    intro name
    rw [findEntry_overlayFields hsorted, findEntry, overlay?_none_left]
  | _ => rfl

end Json

/-! ## Dictionaries -/

variable {α : Type}

/-- What a value gives that stands in for one that may be missing. -/
theorem or_eq_left_iff {a b : Option α} : a.or b = a ↔ (b.isSome = true → a.isSome = true) := by
  cases a <;> cases b <;> simp

namespace Dict

/-- A dictionary over another one: of a name that both have, its own value counts. -/
def above (d below : Dict α) : Dict α :=
  ⟨d.entries.foldl (fun sorted entry => insertEntry entry.1 entry.2 sorted) below.entries,
    isSorted_foldl_insertEntry d.entries below.sorted⟩

theorem get?_above (d below : Dict α) (key : String) :
    (d.above below).get? key = (d.get? key).or (below.get? key) :=
  findEntry_foldl_insertEntry d.sorted.nodup key below.entries

theorem above_empty (d : Dict α) : d.above empty = d := by
  apply ext_get?
  intro key
  rw [get?_above, get?_empty, Option.or_none]

theorem above_self (d : Dict α) : d.above d = d := by
  apply ext_get?
  intro key
  rw [get?_above, Option.or_self]

/-- A dictionary over another one is itself just if it lacks no name of that one. -/
theorem above_eq_iff {d below : Dict α} :
    d.above below = d ↔ ∀ key, (below.get? key).isSome = true → (d.get? key).isSome = true := by
  have hkey : d.above below = d ↔ ∀ key, (d.above below).get? key = d.get? key :=
    ⟨fun h key => by rw [h], ext_get?⟩
  rw [hkey]
  refine forall_congr' fun key => ?_
  rw [get?_above, or_eq_left_iff]

theorem ofList_entries (d : Dict α) : ofList d.entries = d :=
  ext_entries (sortEntries_of_isSorted d.sorted)

end Dict

namespace Json

theorem text?_eq_some_iff {value : Json} {s : String} : text? value = some s ↔ value = .text s := by
  cases value <;> simp [text?]

theorem eq_map_of_mapM_text? {fields : List (String × Json)} {entries : List (String × String)}
    (h : (fields.mapM fun field => (text? field.2).map fun value => (field.1, value)) = some entries) :
    fields = entries.map fun entry => (entry.1, .text entry.2) := by
  induction fields generalizing entries with
  | nil =>
    cases h
    rfl
  | cons field rest ih =>
    rw [List.mapM_cons] at h
    obtain ⟨first, hfirst, h⟩ := Option.bind_eq_some_iff.mp h
    obtain ⟨others, hothers, h⟩ := Option.bind_eq_some_iff.mp h
    obtain ⟨value, hvalue, rfl⟩ := Option.map_eq_some_iff.mp hfirst
    cases h
    rw [List.map_cons, ← ih hothers, ← text?_eq_some_iff.mp hvalue]

theorem dictOf?_ofDict (d : Dict String) : dictOf? text? (ofDict .text d) = some d := by
  have hentries : ((d.map Json.text).entries.mapM fun field =>
      (text? field.2).map fun value => (field.1, value)) = some d.entries := by
    have hread : d.entries.mapM (fun entry => some entry) = some (d.entries.map id) :=
      mapM_eq_some_map fun _ _ => rfl
    rw [Dict.map, List.mapM_map]
    rwa [List.map_id] at hread
  rw [ofDict, dictOf?, hentries, Option.map_some, Dict.ofList_entries]

/-- A value in order that is read as a dictionary of texts is the dictionary's own. -/
theorem eq_ofDict {value : Json} (hordered : isOrdered value = true) {d : Dict String}
    (h : dictOf? text? value = some d) : value = ofDict .text d := by
  cases value with
  | record fields =>
    obtain ⟨entries, hentries, rfl⟩ := Option.map_eq_some_iff.mp h
    have hfields := eq_map_of_mapM_text? hentries
    have hsorted : IsSorted entries := by
      have := (isOrdered_record.mp hordered).1
      rw [hfields, IsSorted, List.pairwise_map] at this
      exact this
    have hentries : (Dict.ofList entries).entries = entries := sortEntries_of_isSorted hsorted
    rw [ofDict, Dict.map]
    dsimp only
    rw [hentries, ← hfields]
  | _ => cases h

theorem overlay_ofDict (below d : Dict String) :
    overlay (ofDict .text below) (ofDict .text d) = ofDict .text (d.above below) := by
  rw [ofDict, ofDict, ofDict, overlay]
  congr 1
  apply entries_eq_of_findEntry_eq (isSorted_overlayFields (Dict.sorted _) _) (Dict.sorted _)
  intro name
  rw [findEntry_overlayFields (Dict.sorted _)]
  change overlay? ((below.map Json.text).get? name) ((d.map Json.text).get? name) =
    ((d.above below).map Json.text).get? name
  rw [Dict.get?_map, Dict.get?_map, Dict.get?_map, Dict.get?_above]
  cases d.get? name <;> simp

/-- A dictionary of texts laid over another one is read as the one over the other. -/
theorem dictOf?_overlay? {base : Option Json} {below : Dict String}
    (hordered : ∀ value ∈ base, isOrdered value = true)
    (h : defaultOf? (dictOf? text?) .empty base = some below) (d : Dict String) :
    defaultOf? (dictOf? text?) .empty (overlay? base (some (ofDict .text d))) = some (d.above below) := by
  cases base with
  | none =>
    cases h
    rw [overlay?_none_left, defaultOf?, dictOf?_ofDict, Dict.above_empty]
  | some value =>
    rw [eq_ofDict (hordered value rfl) h, overlay?, defaultOf?, overlay_ofDict, dictOf?_ofDict]

end Json

end TerseQuery
