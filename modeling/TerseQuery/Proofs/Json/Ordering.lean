import TerseQuery.Proofs.Json.RoundTrip

/-!
# Values in order

* `isOrdered_of_read?`: whatever text a value is read from, the fields of its records are in order of names;
* `field?_ordered`: putting the fields of a record in order changes no field.
-/

namespace TerseQuery.Json

/-! ## Values that were read -/

theorem fieldsOrdered_iff {last : Option String} {fields : List (String × Json)} :
    fieldsOrdered last fields = true ↔
      (∀ before ∈ last, ∀ field ∈ fields, before < field.1) ∧ IsSorted fields ∧
        ∀ field ∈ fields, isOrdered field.2 = true := by
  induction fields generalizing last with
  | nil => simp [fieldsOrdered, IsSorted]
  | cons first rest ih =>
    obtain ⟨name, value⟩ := first
    have hlast : last.all (fun before => decide (before < name)) = true ↔ ∀ before ∈ last, before < name := by
      cases last <;> simp
    rw [fieldsOrdered, Bool.and_eq_true, Bool.and_eq_true, hlast, ih]
    simp only [IsSorted, List.pairwise_cons, Option.mem_def, Option.some.injEq, forall_eq', List.mem_cons,
      forall_eq_or_imp]
    constructor
    · rintro ⟨⟨hname, hvalue⟩, habove, hsorted, hrest⟩
      exact ⟨fun before hbefore => ⟨hname before hbefore, fun field hfield =>
        String.lt_trans (hname before hbefore) (habove field hfield)⟩, ⟨habove, hsorted⟩, hvalue, hrest⟩
    · rintro ⟨hname, ⟨habove, hsorted⟩, hvalue, hrest⟩
      exact ⟨⟨fun before hbefore => (hname before hbefore).1, hvalue⟩, habove, hsorted, hrest⟩

theorem isOrdered_record {fields : List (String × Json)} :
    isOrdered (.record fields) = true ↔
      IsSorted fields ∧ ∀ field ∈ fields, isOrdered field.2 = true := by
  rw [isOrdered, fieldsOrdered_iff]
  simp

theorem isOrdered_of_field? {value inner : Json} {name : String} (hordered : isOrdered value = true)
    (h : value.field? name = some inner) : isOrdered inner = true := by
  cases value with
  | record fields => exact (isOrdered_record.mp hordered).2 _ (mem_of_findEntry h)
  | _ => cases h

theorem isOrdered_of_wholeNumber? {negative : Bool} {whole : List Char} {value : Json}
    (h : wholeNumber? negative whole = some value) : isOrdered value = true := by
  unfold wholeNumber? at h
  dsimp only at h
  split at h
  · cases h
    rfl
  · split at h
    · cases h
      rfl
    · obtain ⟨x, -, rfl⟩ := Option.map_eq_some_iff.mp h
      rfl

theorem isOrdered_of_readUnsigned {negative : Bool} {cs after : List Char} {value : Json}
    (h : readUnsigned negative cs = some (value, after)) : isOrdered value = true := by
  unfold readUnsigned at h
  dsimp only at h
  split at h
  · cases h
  · simp only [Option.bind_eq_bind, Option.bind_eq_some_iff] at h
    obtain ⟨fraction, -, exponent, -, h⟩ := h
    split at h
    · obtain ⟨number, hnumber, hvalue⟩ := Option.bind_eq_some_iff.mp h
      cases hvalue
      exact isOrdered_of_wholeNumber? hnumber
    · obtain ⟨number, hnumber, hvalue⟩ := Option.bind_eq_some_iff.mp h
      obtain ⟨x, -, rfl⟩ := Option.map_eq_some_iff.mp hnumber
      cases hvalue
      rfl

theorem isOrdered_of_readNumber {cs after : List Char} {value : Json}
    (h : readNumber cs = some (value, after)) : isOrdered value = true := by
  unfold readNumber at h
  split at h <;> exact isOrdered_of_readUnsigned h

/-- What a reader that has some fuel reads is in order. -/
structure ReadsOrdered (fuel : Nat) : Prop where
  value : ∀ depth cs value after, readValue fuel depth cs = some (value, after) → isOrdered value = true
  items : ∀ depth cs items after, readItems fuel depth cs = some (items, after) → itemsOrdered items = true
  fields : ∀ depth cs fields after, readFields fuel depth cs = some (fields, after) →
    ∀ field ∈ fields, isOrdered field.2 = true

namespace ReadsOrdered

variable {fuel depth : Nat} {cs after : List Char}

theorem readValue_succ (ih : ReadsOrdered fuel) {value : Json}
    (h : readValue (fuel + 1) depth cs = some (value, after)) : isOrdered value = true := by
  rw [readValue] at h
  split at h
  · obtain ⟨parts, -, hvalue⟩ := Option.map_eq_some_iff.mp h
    cases hvalue
    rfl
  · split at h
    · cases h
    · split at h
      · cases h
        rfl
      · obtain ⟨parts, hparts, hvalue⟩ := Option.map_eq_some_iff.mp h
        cases hvalue
        exact ih.items _ _ _ _ hparts
  · split at h
    · cases h
    · split at h
      · cases h
        rfl
      · obtain ⟨parts, hparts, hvalue⟩ := Option.map_eq_some_iff.mp h
        cases hvalue
        have hfields := ih.fields _ _ _ _ hparts
        exact isOrdered_record.mpr ⟨isSorted_sortEntries _,
          fun field hfield => hfields field (mem_of_mem_sortEntries hfield)⟩
  -- the three words
  iterate 3
    obtain ⟨rest, -, hvalue⟩ := Option.map_eq_some_iff.mp h
    cases hvalue
    rfl
  · exact isOrdered_of_readNumber h

theorem readItems_succ (ih : ReadsOrdered fuel) {items : List Json}
    (h : readItems (fuel + 1) depth cs = some (items, after)) : itemsOrdered items = true := by
  rw [readItems] at h
  split at h
  · cases h
  · rename_i item rest hitem
    have hitem := ih.value _ _ _ _ hitem
    split at h
    · obtain ⟨parts, hparts, hitems⟩ := Option.map_eq_some_iff.mp h
      cases hitems
      rw [itemsOrdered, hitem, ih.items _ _ _ _ hparts]
      rfl
    · cases h
      rw [itemsOrdered, hitem]
      rfl
    · cases h

theorem readFields_succ (ih : ReadsOrdered fuel) {fields : List (String × Json)}
    (h : readFields (fuel + 1) depth cs = some (fields, after)) :
    ∀ field ∈ fields, isOrdered field.2 = true := by
  rw [readFields] at h
  split at h
  · split at h
    · cases h
    · split at h
      · split at h
        · cases h
        · rename_i value rest hvalue
          have hvalue := ih.value _ _ _ _ hvalue
          dsimp only at h
          split at h
          · obtain ⟨parts, hparts, hfields⟩ := Option.map_eq_some_iff.mp h
            cases hfields
            exact List.forall_mem_cons.mpr ⟨hvalue, ih.fields _ _ _ _ hparts⟩
          · cases h
            exact List.forall_mem_singleton.mpr hvalue
          · cases h
      · cases h
  · cases h

end ReadsOrdered

theorem readsOrdered (fuel : Nat) : ReadsOrdered fuel := by
  induction fuel with
  | zero => exact ⟨nofun, nofun, nofun⟩
  | succ fuel ih =>
    exact ⟨fun _ _ _ _ h => ih.readValue_succ h, fun _ _ _ _ h => ih.readItems_succ h,
      fun _ _ _ _ h => ih.readFields_succ h⟩

/-- Every value that is read has its fields in order of names. -/
theorem isOrdered_of_read? {s : String} {value : Json} (h : read? s = some value) :
    isOrdered value = true := by
  unfold read? at h
  dsimp only at h
  split at h
  · rename_i found rest hread
    split at h
    · cases h
      exact (readsOrdered _).value _ _ _ _ hread
    · cases h
  · cases h

/-! ## Values put in order -/

theorem orderedFields_eq (fields : List (String × Json)) :
    orderedFields fields = fields.map fun field => (field.1, ordered field.2) := by
  induction fields with
  | nil => rfl
  | cons field rest ih => rw [orderedFields, ih, List.map_cons]

/-- Where each name has one field, putting fields in order changes none. -/
theorem field?_ordered {fields : List (String × Json)} (h : (fields.map Prod.fst).Nodup) (name : String) :
    (ordered (.record fields)).field? name = (findEntry name fields).map ordered := by
  have hnames : ((orderedFields fields).map Prod.fst).Nodup := by
    rw [orderedFields_eq, List.map_map]
    exact h
  rw [ordered, field?, findEntry_sortEntries hnames, orderedFields_eq, findEntry_map]

theorem ordered_ofDict (d : Dict String) : ordered (ofDict .text d) = ofDict .text d := by
  have hfields : orderedFields (d.map Json.text).entries = (d.map Json.text).entries := by
    rw [orderedFields_eq, Dict.map, List.map_map]
    rfl
  rw [ofDict, ordered, hfields, sortEntries_of_isSorted (Dict.sorted _)]

end TerseQuery.Json
