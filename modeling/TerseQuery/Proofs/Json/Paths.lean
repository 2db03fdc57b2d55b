import TerseQuery.Proofs.Json.Overlay

/-!
# Overlays along paths

A path of names leads through records to the value at its end. What an overlay holds there is decided by what
the upper value holds along the path. Values are in order of names, as all that are read are.

* `atPath?_overlay`: where the upper value holds something, this is laid over what the lower one holds there;
* `atPath?_overlay_of_leavesOpen`: where the upper value leaves the path open, the lower one stays as it was;
* `overlay_overlay`: a value that has been laid over another changes nothing when it is laid over it again;
* `overlay_precedence`: these laws together.
-/

namespace TerseQuery.Json

/-! ## Values and their fields -/

/-- What holds of each value that is no record, and of a record whenever it holds of its fields, holds of all
values. -/
theorem fieldInduction {motive : Json → Prop} (other : ∀ value, (∀ fields, value ≠ .record fields) → motive value)
    (record : ∀ fields, (∀ field ∈ fields, motive field.2) → motive (.record fields)) (value : Json) :
    motive value :=
  match value with
  | .record fields => record fields fun field _ => fieldInduction other record field.2
  | .null | .bool _ | .integer _ | .real _ | .text _ | .list _ => other _ nofun
termination_by value
decreasing_by
  have hinner : sizeOf field.2 < sizeOf field := by
    cases field
    simp only [Prod.mk.sizeOf_spec]
    omega
  have hlisted := List.sizeOf_lt_of_mem ‹field ∈ fields›
  simp only [Json.record.sizeOf_spec]
  omega

theorem field?_eq_some_iff {value inner : Json} {name : String} :
    value.field? name = some inner ↔ ∃ fields, value = .record fields ∧ findEntry name fields = some inner := by
  cases value <;> simp [field?]

/-! ## Once more -/

/-- Laid over the result once more, the upper value changes nothing. -/
theorem overlay_overlay {base top : Json} (hbase : isOrdered base = true) (htop : isOrdered top = true) :
    overlay (overlay base top) top = overlay base top := by
  induction top using fieldInduction generalizing base with
  | other top hother => rw [overlay_of_not_record hother, overlay_of_not_record hother]
  | record fields ih =>
    obtain ⟨hfields, hvalues⟩ := isOrdered_record.mp htop
    obtain ⟨merged, hmerged⟩ := exists_overlay_record base fields
    have hsorted : IsSorted merged := by
      have hordered := isOrdered_overlay hbase _ htop
      rw [hmerged] at hordered
      exact (isOrdered_record.mp hordered).1
    have hfield (name : String) : findEntry name merged = overlay? (base.field? name) (findEntry name fields) := by
      rw [← field?_overlay base hfields, hmerged]
      rfl
    rw [hmerged, overlay]
    congr 1
    apply entries_eq_of_findEntry_eq (isSorted_overlayFields hsorted fields) hsorted
    intro name
    rw [findEntry_overlayFields hfields, hfield]
    cases hvalue : findEntry name fields with
    | none => rfl
    | some value =>
      have hmem := mem_of_findEntry hvalue
      have hordered := hvalues _ hmem
      cases hbelow : base.field? name with
      | none =>
        -- a new field is laid over itself the second time, and so is as if first laid over the empty record
        have hnothing : isOrdered (.record []) = true := rfl
        have hagain := ih _ hmem hnothing hordered
        rw [overlay_empty hordered] at hagain
        rw [overlay?, overlay?, hagain]
      | some below =>
        have hagain := ih _ hmem (isOrdered_of_field? hbase hbelow) hordered
        rw [overlay?, overlay?, hagain]

theorem overlay_self {value : Json} (h : isOrdered value = true) : overlay value value = value := by
  have hnothing : isOrdered (.record []) = true := rfl
  have hagain := overlay_overlay hnothing h
  rwa [overlay_empty h] at hagain

/-! ## Paths -/

/-- The value at the end of a path of names, if there is one. -/
def atPath? : List String → Json → Option Json
  | [], value => some value
  | name :: path, value => (value.field? name).bind (atPath? path)

/-- A value leaves a path open if it is a record, holds nothing but records on the way, and nothing at the end. -/
structure LeavesOpen (value : Json) (path : List String) : Prop where
  way : ∀ before, before <+: path → ∀ inner ∈ value.atPath? before, ∃ fields, inner = .record fields
  ending : value.atPath? path = none

theorem leavesOpen_cons_iff {value : Json} {name : String} {path : List String} :
    LeavesOpen value (name :: path) ↔
      (∃ fields, value = .record fields) ∧ ∀ inner ∈ value.field? name, LeavesOpen inner path := by
  constructor
  · intro h
    refine ⟨h.way [] List.nil_prefix value rfl, fun inner hfield => ⟨fun before hbefore found hfound => ?_, ?_⟩⟩
    · refine h.way (name :: before) (List.cons_prefix_cons.mpr ⟨rfl, hbefore⟩) found ?_
      exact Option.bind_eq_some_iff.mpr ⟨inner, hfield, hfound⟩
    · exact Option.bind_eq_none_iff.mp h.ending inner hfield
  · rintro ⟨hrecord, hinner⟩
    refine ⟨fun before hbefore found hfound => ?_, ?_⟩
    · cases before with
      | nil =>
        cases hfound
        exact hrecord
      | cons first rest =>
        obtain ⟨rfl, hrest⟩ := List.cons_prefix_cons.mp hbefore
        obtain ⟨inner, hfield, hfound⟩ := Option.bind_eq_some_iff.mp hfound
        exact (hinner inner hfield).way rest hrest found hfound
    · exact Option.bind_eq_none_iff.mpr fun inner hfield => (hinner inner hfield).ending

/-- What the upper value holds at a path is laid over what the lower one holds there. -/
theorem atPath?_overlay {base top value : Json} {path : List String} (htop : isOrdered top = true)
    (h : top.atPath? path = some value) :
    (overlay base top).atPath? path = overlay? (base.atPath? path) (some value) := by
  induction path generalizing base top with
  | nil =>
    cases h
    rfl
  | cons name path ih =>
    obtain ⟨inner, hinner, hvalue⟩ := Option.bind_eq_some_iff.mp h
    obtain ⟨fields, rfl, hfound⟩ := field?_eq_some_iff.mp hinner
    rw [atPath?, atPath?, field?_overlay base (isOrdered_record.mp htop).1, hfound]
    cases base.field? name with
    | none => simpa using hvalue
    | some below => exact ih (isOrdered_of_field? htop hinner) hvalue

theorem atPath?_overlay_of_leavesOpen {base top : Json} {path : List String} (htop : isOrdered top = true)
    (h : LeavesOpen top path) : (overlay base top).atPath? path = base.atPath? path := by
  induction path generalizing base top with
  | nil => cases h.ending
  | cons name path ih =>
    obtain ⟨⟨fields, rfl⟩, hinner⟩ := leavesOpen_cons_iff.mp h
    rw [atPath?, atPath?, field?_overlay base (isOrdered_record.mp htop).1]
    cases hfound : findEntry name fields with
    | none => rw [overlay?_none_right]
    | some inner =>
      have hopen : LeavesOpen inner path := hinner inner hfound
      cases base.field? name with
      | none => exact hopen.ending
      | some below => exact ih (isOrdered_of_field? htop hfound) hopen

/-- An overlay is done once and for all, a value over itself or over nothing is that value, what the upper value
holds takes precedence unless it is a record, and the lower one stays where the upper one leaves the path open. -/
theorem overlay_precedence {base top : Json} (hbase : isOrdered base = true) (htop : isOrdered top = true) :
    overlay (overlay base top) top = overlay base top ∧
      overlay top top = top ∧ overlay (.record []) top = top ∧
      (∀ path value, top.atPath? path = some value → (∀ fields, value ≠ .record fields) →
        (overlay base top).atPath? path = some value) ∧
      ∀ path value, base.atPath? path = some value → LeavesOpen top path →
        (overlay base top).atPath? path = some value := by
  refine ⟨overlay_overlay hbase htop, overlay_self htop, overlay_empty htop, ?_, ?_⟩
  · intro path value hvalue hother
    rw [atPath?_overlay htop hvalue, overlay?_of_not_record _ hother]
  · intro path value hvalue hopen
    rw [atPath?_overlay_of_leavesOpen htop hopen, hvalue]

/-- A record and a value that is none meet, once either way. -/
theorem overlay_precedence_conflicting :
    let base := record [("a", .record [("b", .integer 1), ("c", .list [.null])]), ("d", .integer 2)]
    let top := record [("a", .record [("b", .record [])]), ("d", .record [("e", .text "x")])]
    (isOrdered base = true ∧ isOrdered top = true) ∧
      overlay (overlay base top) top = overlay base top ∧
      overlay top top = top ∧ overlay (.record []) top = top ∧
      (overlay base top).atPath? ["d", "e"] = some (.text "x") ∧
      (overlay base top).atPath? ["a", "c"] = some (.list [.null]) := by
  intro base top
  have hbase : isOrdered base = true := by decide +kernel
  have htop : isOrdered top = true := by decide +kernel
  obtain ⟨hagain, hself, hempty, htaken, hleft⟩ := overlay_precedence hbase htop
  have hopen : LeavesOpen top ["a", "c"] := by
    refine leavesOpen_cons_iff.mpr ⟨⟨_, rfl⟩, fun inner hinner => ?_⟩
    cases hinner
    exact leavesOpen_cons_iff.mpr ⟨⟨_, rfl⟩, nofun⟩
  exact ⟨⟨hbase, htop⟩, hagain, hself, hempty, htaken ["d", "e"] _ rfl nofun, hleft ["a", "c"] _ rfl hopen⟩

end TerseQuery.Json
