import TerseQuery.Proofs.Settings.Json
import TerseQuery.Settings.Files

/-!
# Settings that were saved

* `read?_fileText`: the text of any settings is read as the value that they are written as;
* `load_save`: settings that were saved are loaded as they were;
* `ofLayers_above`: over another layer they are loaded as they were over what that layer leaves them.
-/

namespace TerseQuery

open Json

/-! ## The text of settings -/

namespace Json

theorem fieldsExact_iff {depth : Nat} {fields : List (String × Json)} :
    fieldsExact depth fields = true ↔ ∀ field ∈ fields, isExact depth field.2 = true := by
  induction fields with
  | nil => simp [fieldsExact]
  | cons field rest ih => simp [fieldsExact, ih]

theorem isExact_record {depth : Nat} {fields : List (String × Json)} :
    isExact (depth + 1) (.record fields) = true ↔ ∀ field ∈ fields, isExact depth field.2 = true := by
  rw [isExact, fieldsExact_iff]

theorem isExact_text (depth : Nat) (s : String) : isExact depth (.text s) = true := by
  cases depth <;> rfl

theorem isExact_ofDict (depth : Nat) (d : Dict String) : isExact (depth + 1) (ofDict .text d) = true := by
  rw [ofDict, isExact_record]
  intro field hfield
  obtain ⟨entry, -, rfl⟩ := List.mem_map.mp hfield
  exact isExact_text depth entry.2

theorem isExact_of_mem_optional {α : Type} {depth : Nat} {encode : α → Json}
    (h : ∀ value, isExact depth (encode value) = true) {name : String} {value : Option α}
    {field : String × Json} (hfield : field ∈ optional name encode value) : isExact depth field.2 = true := by
  cases value with
  | none => cases hfield
  | some value =>
    rw [List.mem_singleton.mp hfield]
    exact h value

end Json

theorem ConnectionDefinition.isExact_toJson (depth : Nat) (d : ConnectionDefinition) :
    d.toJson.isExact (depth + 1) = true := by
  have htext := isExact_text depth
  have hport (port : UInt16) : isExact depth (.integer port.toNat) = true := by
    have hsize : port.toNat < UInt16.size := port.toNat_lt
    have hword : isWord port.toNat = true := by
      refine decide_eq_true ?_
      simp only [greatestInteger, UInt64.size, UInt16.size] at hsize ⊢
      omega
    cases depth <;> exact hword
  cases d with
  | fullString text =>
    simp only [toJson, isExact_record, List.forall_mem_cons, htext]
    simp
  | fullPath engine path =>
    simp only [toJson, isExact_record, List.forall_mem_cons, List.forall_mem_append, htext]
    simpa using fun _ _ => isExact_of_mem_optional htext
  | components parts =>
    simp only [toJson, isExact_record, List.forall_mem_cons, List.forall_mem_append]
    exact ⟨htext _, htext _, ⟨⟨fun _ => isExact_of_mem_optional htext, fun _ => isExact_of_mem_optional htext⟩,
      fun _ => isExact_of_mem_optional hport⟩, fun _ => isExact_of_mem_optional htext⟩

theorem Connection.isExact_toJson (depth : Nat) (c : Connection) : c.toJson.isExact (depth + 2) = true := by
  have htext := isExact_text (depth + 1)
  simp only [toJson, isExact_record, List.forall_mem_cons, List.forall_mem_append]
  exact ⟨c.definition.isExact_toJson depth, ⟨fun _ => isExact_of_mem_optional htext,
    fun _ => isExact_of_mem_optional htext⟩, fun _ => isExact_of_mem_optional htext⟩

namespace Settings

theorem isExact_toJson (depth : Nat) (s : Settings) : s.toJson.isExact (depth + 3) = true := by
  have htext := isExact_text (depth + 2)
  have hdict := isExact_ofDict (depth + 1)
  simp only [toJson, isExact_record, List.forall_mem_append, List.forall_mem_cons]
  refine ⟨⟨fun _ => isExact_of_mem_optional htext, fun _ => isExact_of_mem_optional htext⟩, htext _, htext _,
    htext _, hdict _, s.connection.isExact_toJson depth, hdict _, hdict _, hdict _, fun _ hnone => ?_⟩
  exact absurd hnone List.not_mem_nil

/-- The text of settings is read as the value that they are written as, its fields in order. -/
theorem read?_fileText (s : Settings) : Json.read? s.fileText = some s.toJson.ordered :=
  read?_pretty (s.isExact_toJson 124)

/-! ## Settings over a layer -/

/-- The settings that a layer leaves to one above it. A list leaves none: a record replaces it as a whole. -/
def leftBy (layer : Option Json) : Settings :=
  match layer with
  | some (.record fields) => (ofJson? (.record fields)).getD initial
  | _ => initial

/-- What the layers below are when there is one at most. -/
theorem foldl_overlay_layer {layer : Option Json} (h : ∀ value ∈ layer, value.isOrdered = true) :
    layer.toList.foldl overlay (.record []) = layer.getD (.record []) := by
  cases layer with
  | none => rfl
  | some value => exact overlay_empty (h value rfl)

theorem ofLayers_eq_ok {layers : List Json} {s : Settings} :
    ofLayers layers = .ok s ↔ ofJson? (layers.foldl overlay (.record [])) = some s := by
  unfold ofLayers
  cases ofJson? (layers.foldl overlay (.record [])) with
  | none => exact ⟨nofun, nofun⟩
  | some settings => exact ⟨fun h => by cases h; rfl, fun h => by cases h; rfl⟩

theorem readFrom_nothing : ReadFrom (fun _ => none) initial := by
  constructor <;> rfl

/-- A layer that is loaded leaves all its settings, or it has no fields and leaves the initial ones. -/
theorem leftBy_cases {layer : Option Json} {s : Settings}
    (hordered : ∀ value ∈ layer, value.isOrdered = true) (h : ofLayers layer.toList = .ok s) :
    leftBy layer = s ∧ ReadFrom (fun name => layer.bind (field? name)) s ∨
      leftBy layer = initial ∧ ∀ name, layer.bind (field? name) = none := by
  rw [ofLayers_eq_ok, foldl_overlay_layer hordered] at h
  rcases layer with _ | (_ | _ | _ | _ | _ | _ | fields)
  case some.record =>
    rw [Option.getD_some] at h
    rw [leftBy, h]
    exact .inl ⟨rfl, ofJson?_record_iff.mp h⟩
  all_goals exact .inr ⟨rfl, fun _ => rfl⟩

/-- Settings that are saved above a layer are loaded over the settings that its fields are read as. -/
theorem ofLayers_above {layer : Option Json} {s below : Settings}
    (hordered : ∀ value ∈ layer, value.isOrdered = true)
    (hbelow : ReadFrom (fun name => layer.bind (field? name)) below)
    (hconnection : ∀ lower ∈ layer.bind (field? "connection"), Connection.ofJson? lower = some s.connection) :
    ofLayers (layer.toList ++ [s.toJson.ordered]) = .ok (s.above below) := by
  have hfield : ∀ name, (some (layer.getD (.record []))).bind (field? name) = layer.bind (field? name) := by
    intro name
    cases layer <;> rfl
  have hbase : ∀ lower ∈ some (layer.getD (.record [])), lower.isOrdered = true := by
    intro lower hlower
    cases layer with
    | none =>
      cases hlower
      rfl
    | some value => exact hordered lower hlower
  rw [ofLayers_eq_ok, List.foldl_append, foldl_overlay_layer hordered]
  refine ofJson?_overlay? hbase ?_ ?_
  · rwa [funext hfield]
  · rwa [hfield]

/-- Settings that are saved above a layer, with the connection of that layer, are loaded over what it
leaves. -/
theorem ofLayers_leftBy {layer : Option Json} {s below : Settings}
    (hordered : ∀ value ∈ layer, value.isOrdered = true) (hbelow : ofLayers layer.toList = .ok below)
    (hconnection : s.connection = below.connection) :
    ofLayers (layer.toList ++ [s.toJson.ordered]) = .ok (s.above (leftBy layer)) := by
  rcases leftBy_cases hordered hbelow with ⟨hleft, hread⟩ | ⟨hleft, hnone⟩
  · rw [hleft]
    refine ofLayers_above hordered hread fun lower hlower => ?_
    have hlowest := hread.connection
    rw [hlower, ← hconnection] at hlowest
    exact hlowest
  · rw [hleft]
    refine ofLayers_above hordered ?_ fun lower hlower => ?_
    · rw [funext hnone]
      exact readFrom_nothing
    · rw [hnone] at hlower
      cases hlower

/-! ## Files -/

theorem readLayer_of_read? {disk : Disk} {path text : String} {value : Json}
    (h : disk.read? path = some text) (hvalue : Json.read? text = some value) :
    readLayer disk path = .ok (some value) := by
  unfold Disk.read? at h
  unfold readLayer
  split at h
  · rename_i found hfound
    cases h
    rw [hfound]
    dsimp only
    rw [hvalue]
  · cases h

theorem load_pair {disk : Disk} {low high : String} {below above : Option Json}
    (hlow : readLayer disk low = .ok below) (hhigh : readLayer disk high = .ok above) :
    load disk [low, high] = ofLayers (below.toList ++ above.toList) := by
  rw [load, List.mapM_cons, List.mapM_cons, hlow, hhigh]
  cases below <;> cases above <;> rfl

/-- Settings that are loaded without a file of the working directory are those of the layer of the user. -/
theorem exists_layer {disk : Disk} {places : SettingsPlaces} {s : Settings}
    (h : loadFrom disk places = .ok s) (hlocal : disk.find? places.localFile = none) :
    ∃ layer, readLayer disk places.globalFile = .ok layer ∧ ofLayers layer.toList = .ok s := by
  have hnone : readLayer disk places.localFile = .ok none := by rw [readLayer, hlocal]
  cases hlayer : readLayer disk places.globalFile with
  | error failure =>
    rw [loadFrom, load, List.mapM_cons, hlayer] at h
    cases h
  | ok layer =>
    rw [loadFrom, load_pair hlayer hnone] at h
    exact ⟨layer, rfl, by simpa using h⟩

theorem isOrdered_of_readLayer {disk : Disk} {path : String} {layer : Option Json}
    (h : readLayer disk path = .ok layer) : ∀ value ∈ layer, value.isOrdered = true := by
  unfold readLayer at h
  split at h
  · cases h
    exact nofun
  · cases h
  · split at h
    · rename_i value hvalue
      cases h
      intro lower hlower
      cases hlower
      exact isOrdered_of_read? hvalue
    · cases h

/-- A file that settings were saved in holds their text. -/
theorem read?_of_save {s : Settings} {disk saved : Disk} {path : String}
    (h : s.save disk path = (saved, .ok ())) : saved.read? path = some s.fileText := by
  unfold save at h
  split at h
  · cases h
  · split at h
    · cases h
    · rename_i written hwritten
      cases h
      exact Disk.read?_of_write? hwritten

/-- Settings that were saved in a file are loaded from it as they were, whatever their texts and whatever they
leave out. -/
theorem load_save (s : Settings) :
    (∃ value, Json.read? s.fileText = some value ∧ ofLayers [value] = .ok s) ∧
      ∀ disk saved path, s.save disk path = (saved, .ok ()) → load saved [path] = .ok s := by
  have hlayers : ofLayers [s.toJson.ordered] = .ok s := by
    have habove := @ofLayers_above none s initial nofun readFrom_nothing nofun
    rwa [above_initial] at habove
  refine ⟨⟨s.toJson.ordered, s.read?_fileText, hlayers⟩, fun disk saved path hsave => ?_⟩
  have hlayer := readLayer_of_read? (read?_of_save hsave) s.read?_fileText
  rw [load, List.mapM_cons, hlayer]
  exact hlayers

/-- Settings with a quote, a backslash, control characters and a character beyond 16 bits, and with parts that
are left out. -/
def escaped : Settings :=
  { initial with
    table := some "\"\\\x00\n😀"
    runMode := .both
    connection := ⟨.components ⟨"", none, some "\t", some 65535, none⟩, none, some "", none⟩
    aliases := (Dict.empty.insert "\x7f" "").insert "" "\\u0000" }

theorem load_save_escaped : ∃ saved, escaped.save (Disk.workingIn []) "/settings.json" = (saved, .ok ()) ∧
    load saved ["/settings.json"] = .ok escaped := by
  have hsave : escaped.save (Disk.workingIn []) "/settings.json" =
      ((escaped.save (Disk.workingIn []) "/settings.json").1, .ok ()) := by rfl
  exact ⟨_, hsave, (load_save escaped).2 _ _ _ hsave⟩

end Settings

end TerseQuery
