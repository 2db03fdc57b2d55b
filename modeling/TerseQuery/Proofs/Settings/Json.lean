import TerseQuery.Proofs.Json.Overlay
import TerseQuery.Settings.Json

/-!
# Settings laid over a lower layer

* `ConnectionDefinition.ofJson?_overlay?`, `Connection.ofJson?_overlay?`: laid over nothing or over themselves,
  a definition and a connection are read as they were written, whatever fields they leave out;
* `Settings.ofJson?_overlay?`: what settings leave out is read from the lower layer, entry by entry.
-/

namespace TerseQuery

namespace Json

/-! ## Records over other values -/

/-- A record in which no name has two fields. -/
def NamedOnce : Json → Prop
  | .record fields => (fields.map Prod.fst).Nodup
  | _ => False

/-- What a record is laid over has no fields, or is a record too. -/
theorem eq_none_or_record (base : Option Json) :
    (∀ name, base.bind (field? name) = none) ∨ ∃ fields, base = some (.record fields) := by
  rcases base with _ | (_ | _ | _ | _ | _ | _ | fields)
  case some.record => exact .inr ⟨fields, rfl⟩
  all_goals exact .inl fun _ => rfl

/-- The fields of a record in order that is laid over a value. -/
structure Overlaid (base : Option Json) (top : Json) (merged : List (String × Json)) : Prop where
  eq : overlay? base (some top.ordered) = some (.record merged)
  field : ∀ name, findEntry name merged =
    overlay? (base.bind (field? name)) ((top.field? name).map ordered)

theorem exists_overlaid (base : Option Json) {top : Json} (h : top.NamedOnce) :
    ∃ merged, Overlaid base top merged := by
  cases top with
  | record fields =>
    have hfield := field?_ordered h
    have hsorted := isSorted_sortEntries (orderedFields fields)
    cases base with
    | none =>
      refine ⟨sortEntries (orderedFields fields), rfl, fun name => ?_⟩
      rw [field?, ← hfield, Option.bind_none, overlay?_none_left]
      rfl
    | some base =>
      obtain ⟨merged, hmerged⟩ := exists_overlay_record base (sortEntries (orderedFields fields))
      refine ⟨merged, by rw [ordered, overlay?, hmerged], fun name => ?_⟩
      have hname := field?_overlay base hsorted name
      rw [hmerged] at hname
      rw [field?, ← hfield]
      exact hname
  | _ => exact h.elim

@[simp] theorem findEntry_optional {α : Type} (key name : String) (encode : α → Json) (value : Option α) :
    findEntry key (optional name encode value) = if name = key then value.map encode else none := by
  cases value <;> simp [optional, findEntry]

theorem names_optional {α : Type} (name : String) (encode : α → Json) (value : Option α) :
    ((optional name encode value).map Prod.fst).Sublist [name] := by
  cases value <;> simp [optional]

/-- How the values of a field that may be left out are written and read: neither as null nor as records,
which would be overlaid field by field. -/
structure Scalar {α : Type} (encode : α → Json) (decode : Json → Option α) : Prop where
  read : ∀ value, decode (encode value) = some value
  ne_null : ∀ value, encode value ≠ .null
  ne_record : ∀ value fields, encode value ≠ .record fields
  ordered : ∀ value, (encode value).ordered = encode value

theorem scalar_text : Scalar Json.text text? :=
  ⟨fun _ => rfl, nofun, nofun, fun _ => rfl⟩

theorem optionalOf?_of_ne_null {α : Type} {decode : Json → Option α} {value : Json} (h : value ≠ .null) :
    optionalOf? decode (some value) = (decode value).map some := by
  cases value with
  | null => exact absurd rfl h
  | _ => rfl

theorem defaultOf?_overlay? {α : Type} {decode : Json → Option α} {default : α} (base : Option Json)
    (top : Json) :
    defaultOf? decode default (overlay? base (some top)) = (overlay? base (some top)).bind decode := by
  cases base <;> rfl

namespace Overlaid

variable {base : Option Json} {top : Json} {merged : List (String × Json)}

theorem text (h : Overlaid base top merged) {name s : String} (htop : top.field? name = some (.text s)) :
    findEntry name merged = some (.text s) := by
  rw [h.field, htop]
  exact overlay?_text _ s

/-- A field that is written as a text is read from that text, whatever it is below. -/
theorem decoded (h : Overlaid base top merged) {α : Type} {decode : Json → Option α} {default value : α}
    {name s : String} (htop : top.field? name = some (.text s)) (hread : decode (.text s) = some value) :
    defaultOf? decode default (findEntry name merged) = some value := by
  rw [h.text htop]
  exact hread

/-- A field that may be left out is read as what is written there, or else as what it is below. -/
theorem optional (h : Overlaid base top merged) {α : Type} {encode : α → Json} {decode : Json → Option α}
    (hscalar : Scalar encode decode) {name : String} {value below : Option α}
    (htop : top.field? name = value.map encode)
    (hbelow : optionalOf? decode (base.bind (field? name)) = some below) :
    optionalOf? decode (findEntry name merged) = some (value.or below) := by
  rw [h.field, htop]
  cases value with
  | none => exact hbelow
  | some value =>
    rw [Option.map_some, Option.map_some, hscalar.ordered, overlay?_of_not_record _ (hscalar.ne_record value),
      optionalOf?_of_ne_null (hscalar.ne_null value), hscalar.read]
    rfl

/-- A field that may be left out over nothing or over itself. -/
theorem optional_same (h : Overlaid base top merged) {α : Type} {encode : α → Json}
    {decode : Json → Option α} (hscalar : Scalar encode decode) {name : String} {value : Option α}
    (htop : top.field? name = value.map encode)
    (hbelow : base.bind (field? name) = none ∨ optionalOf? decode (base.bind (field? name)) = some value) :
    optionalOf? decode (findEntry name merged) = some value := by
  rcases hbelow with hnone | hsame
  · have hbelow : optionalOf? decode (base.bind (field? name)) = some none := by rw [hnone, optionalOf?]
    rw [h.optional hscalar htop hbelow, Option.or_none]
  · rw [h.optional hscalar htop hsame, Option.or_self]

theorem dict (h : Overlaid base top merged) {name : String} {d below : Dict String}
    (hordered : ∀ lower ∈ base, lower.isOrdered = true) (htop : top.field? name = some (ofDict .text d))
    (hbelow : defaultOf? (dictOf? text?) .empty (base.bind (field? name)) = some below) :
    defaultOf? (dictOf? text?) .empty (findEntry name merged) = some (d.above below) := by
  rw [h.field, htop, Option.map_some, ordered_ofDict]
  refine dictOf?_overlay? (fun lower hlower => ?_) hbelow d
  obtain ⟨value, hvalue, hfield⟩ := Option.bind_eq_some_iff.mp hlower
  exact isOrdered_of_field? (hordered value hvalue) hfield

end Overlaid

end Json

open Json

/-! ## Definitions -/

namespace ConnectionDefinition

/-- The fields that a definition is read from. -/
inductive ReadFrom (field : String → Option Json) : ConnectionDefinition → Prop where
  | fullString {text : String} (htype : field "type" = some (.text "full_string"))
      (htext : field "connection_string" = some (.text text)) : ReadFrom field (.fullString text)
  | fullPath {engine : Option String} {path : String} (htype : field "type" = some (.text "full_path"))
      (hengine : optionalOf? text? (field "engine") = some engine)
      (hpath : field "path" = some (.text path)) : ReadFrom field (.fullPath engine path)
  | components {parts : ConnectionParts} (htype : field "type" = some (.text "components"))
      (hengine : field "engine" = some (.text parts.engine))
      (hdriver : optionalOf? text? (field "driver") = some parts.driver)
      (hhost : optionalOf? text? (field "host") = some parts.host)
      (hport : optionalOf? port? (field "port") = some parts.port)
      (hoptions : optionalOf? text? (field "driver_options") = some parts.driverOptions) :
      ReadFrom field (.components parts)

theorem eq_of_requiredOf? {value : Option Json} {s : String} (h : requiredOf? text? value = some s) :
    value = some (.text s) := by
  obtain ⟨found, hfound, htext⟩ := Option.bind_eq_some_iff.mp h
  rw [hfound, text?_eq_some_iff.mp htext]

theorem ofJson?_record_iff {fields : List (String × Json)} {d : ConnectionDefinition} :
    ofJson? (.record fields) = some d ↔ ReadFrom (findEntry · fields) d := by
  constructor
  · intro h
    rw [ofJson?] at h
    split at h
    · rename_i type htype
      unfold ofFields? at h
      split at h
      · simp only [fieldValues?, List.map_cons, List.map_nil, Option.map_eq_some_iff] at h
        obtain ⟨text, htext, rfl⟩ := h
        exact .fullString htype (eq_of_requiredOf? htext)
      · simp only [fieldValues?, List.map_cons, List.map_nil, Option.bind_eq_bind,
          Option.bind_eq_some_iff] at h
        obtain ⟨engine, hengine, path, hpath, h⟩ := h
        cases h
        exact .fullPath htype hengine (eq_of_requiredOf? hpath)
      · simp only [partNames, fieldValues?, List.map_cons, List.map_nil, Option.bind_eq_bind,
          Option.bind_eq_some_iff] at h
        obtain ⟨engine, hengine, driver, hdriver, host, hhost, port, hport, options, hoptions, h⟩ := h
        cases h
        exact .components htype (eq_of_requiredOf? hengine) hdriver hhost hport hoptions
      · cases h
    · cases h
  · intro h
    cases h with
    | fullString htype htext => simp [ofJson?, ofFields?, fieldValues?, htype, htext, requiredOf?, text?]
    | fullPath htype hengine hpath =>
      simp [ofJson?, ofFields?, fieldValues?, htype, hengine, hpath, requiredOf?, text?]
    | components htype hengine hdriver hhost hport hoptions =>
      simp [ofJson?, ofFields?, fieldValues?, partNames, htype, hengine, hdriver, hhost, hport, hoptions,
        requiredOf?, text?]

theorem scalar_port : Scalar (fun port : UInt16 => .integer port.toNat) port? := by
  refine ⟨fun port => ?_, nofun, nofun, fun _ => rfl⟩
  have hsize : port.toNat < UInt16.size := port.toNat_lt
  simp [port?, natural?, hsize]

theorem namedOnce_toJson (d : ConnectionDefinition) : d.toJson.NamedOnce := by
  cases d with
  | fullString text =>
    rw [toJson, NamedOnce]
    simp
  | fullPath engine path =>
    have hnames : ["type", "engine", "path"].Nodup := by decide
    refine hnames.sublist (.cons_cons _ ?_)
    rw [List.map_append]
    exact (names_optional ..).append (List.Sublist.refl _)
  | components parts =>
    have hnames : ("type" :: partNames).Nodup := by decide
    refine hnames.sublist (.cons_cons _ (.cons_cons _ ?_))
    rw [List.map_append, List.map_append, List.map_append]
    exact (((names_optional ..).append (names_optional ..)).append (names_optional ..)).append
      (names_optional ..)

/-- What a definition is laid over has no fields, or those of the definition. -/
theorem ReadFrom.below {base : Option Json} {d : ConnectionDefinition}
    (h : ∀ lower ∈ base, ofJson? lower = some d) :
    (∀ name, base.bind (field? name) = none) ∨ ReadFrom (fun name => base.bind (field? name)) d := by
  rcases eq_none_or_record base with hnone | ⟨fields, rfl⟩
  · exact .inl hnone
  · exact .inr (ofJson?_record_iff.mp (h _ rfl))

/-- A definition over some fields: what it leaves out of the parts that its type may leave out is what these
fields are read as. -/
inductive Completed (field : String → Option Json) : ConnectionDefinition → ConnectionDefinition → Prop where
  | fullString (text : String) : Completed field (.fullString text) (.fullString text)
  | fullPath {below : Option String} (engine : Option String) (path : String)
      (hengine : optionalOf? text? (field "engine") = some below) :
      Completed field (.fullPath engine path) (.fullPath (engine.or below) path)
  | components {driver host options : Option String} {port : Option UInt16} (parts : ConnectionParts)
      (hdriver : optionalOf? text? (field "driver") = some driver)
      (hhost : optionalOf? text? (field "host") = some host)
      (hport : optionalOf? port? (field "port") = some port)
      (hoptions : optionalOf? text? (field "driver_options") = some options) :
      Completed field (.components parts) (.components ⟨parts.engine, parts.driver.or driver,
        parts.host.or host, parts.port.or port, parts.driverOptions.or options⟩)

theorem completed_nothing (d : ConnectionDefinition) : Completed (fun _ => none) d d := by
  have hnothing {α : Type} (decode : Json → Option α) : optionalOf? decode none = some none := rfl
  cases d with
  | fullString text => exact .fullString text
  | fullPath engine path =>
    have hcompleted : Completed (fun _ => none) (.fullPath engine path) (.fullPath (engine.or none) path) :=
      .fullPath engine path (hnothing _)
    rwa [Option.or_none] at hcompleted
  | components parts =>
    have hcompleted : Completed (fun _ => none) (.components parts) (.components ⟨parts.engine,
        parts.driver.or none, parts.host.or none, parts.port.or none, parts.driverOptions.or none⟩) :=
      .components parts (hnothing _) (hnothing _) (hnothing _) (hnothing _)
    simpa only [Option.or_none] using hcompleted

theorem ReadFrom.completed {field : String → Option Json} {d : ConnectionDefinition} (h : ReadFrom field d) :
    Completed field d d := by
  cases h with
  | fullString htype htext => exact .fullString _
  | @fullPath engine path htype hengine hpath =>
    have hcompleted := Completed.fullPath engine path hengine
    rwa [Option.or_self] at hcompleted
  | @components parts htype hengine hdriver hhost hport hoptions =>
    have hcompleted := Completed.components parts hdriver hhost hport hoptions
    simpa only [Option.or_self] using hcompleted

/-- A definition that is laid over a value is read with the parts that the value completes it with. -/
theorem Completed.readFrom {base : Option Json} {d completed : ConnectionDefinition}
    {merged : List (String × Json)} (h : Completed (fun name => base.bind (field? name)) d completed)
    (hmerged : Overlaid base d.toJson merged) : ReadFrom (findEntry · merged) completed := by
  cases h with
  | fullString text => exact .fullString (hmerged.text rfl) (hmerged.text rfl)
  | fullPath engine path hengine =>
    refine .fullPath (hmerged.text rfl) (hmerged.optional scalar_text ?_ hengine) (hmerged.text ?_)
    · simp [toJson, field?, findEntry]
    · simp [toJson, field?, findEntry]
  | components parts hdriver hhost hport hoptions =>
    refine .components (hmerged.text rfl) (hmerged.text rfl) (hmerged.optional scalar_text ?_ hdriver)
      (hmerged.optional scalar_text ?_ hhost) (hmerged.optional scalar_port ?_ hport)
      (hmerged.optional scalar_text ?_ hoptions)
    all_goals simp [toJson, field?, findEntry]

/-- A definition over nothing, or over a value that is read as the same definition, is read as it was
written. -/
theorem ofJson?_overlay? {base : Option Json} {d : ConnectionDefinition}
    (h : ∀ lower ∈ base, ofJson? lower = some d) :
    (overlay? base (some d.toJson.ordered)).bind ofJson? = some d := by
  have hcompleted : Completed (fun name => base.bind (field? name)) d d := by
    rcases ReadFrom.below h with hnone | hread
    · rw [funext hnone]
      exact completed_nothing d
    · exact hread.completed
  obtain ⟨merged, hmerged⟩ := exists_overlaid base d.namedOnce_toJson
  rw [hmerged.eq, Option.bind_some, ofJson?_record_iff]
  exact hcompleted.readFrom hmerged

end ConnectionDefinition

/-! ## Connections -/

namespace Connection

/-- The fields that a connection is read from. -/
structure ReadFrom (field : String → Option Json) (c : Connection) : Prop where
  definition : defaultOf? ConnectionDefinition.ofJson? default (field "definition") = some c.definition
  user : optionalOf? text? (field "user") = some c.user
  password : optionalOf? text? (field "password") = some c.password
  passwordVariable : optionalOf? text? (field "password_env") = some c.passwordVariable

theorem ofJson?_record_iff {fields : List (String × Json)} {c : Connection} :
    ofJson? (.record fields) = some c ↔ ReadFrom (findEntry · fields) c := by
  constructor
  · intro h
    simp only [ofJson?, fieldNames, fieldValues?, List.map_cons, List.map_nil, Option.bind_eq_bind,
      Option.bind_eq_some_iff] at h
    obtain ⟨definition, hdefinition, user, huser, password, hpassword, named, hnamed, h⟩ := h
    cases h
    exact ⟨hdefinition, huser, hpassword, hnamed⟩
  · intro h
    simp [ofJson?, fieldNames, fieldValues?, h.definition, h.user, h.password, h.passwordVariable]

theorem namedOnce_toJson (c : Connection) : c.toJson.NamedOnce := by
  have hnames : fieldNames.Nodup := by decide
  refine hnames.sublist (.cons_cons _ ?_)
  rw [List.map_append, List.map_append]
  exact ((names_optional ..).append (names_optional ..)).append (names_optional ..)

/-- What a connection is laid over has no fields, or those of the connection. -/
theorem ReadFrom.below {base : Option Json} {c : Connection} (h : ∀ lower ∈ base, ofJson? lower = some c) :
    (∀ name, base.bind (field? name) = none) ∨ ReadFrom (fun name => base.bind (field? name)) c := by
  rcases eq_none_or_record base with hnone | ⟨fields, rfl⟩
  · exact .inl hnone
  · exact .inr (ofJson?_record_iff.mp (h _ rfl))

/-- A connection over nothing, or over a value that is read as the same connection, is read as it was
written. -/
theorem ofJson?_overlay? {base : Option Json} {c : Connection} (h : ∀ lower ∈ base, ofJson? lower = some c) :
    (overlay? base (some c.toJson.ordered)).bind ofJson? = some c := by
  have hbelow := ReadFrom.below h
  obtain ⟨merged, hmerged⟩ := exists_overlaid base c.namedOnce_toJson
  rw [hmerged.eq, Option.bind_some, ofJson?_record_iff]
  refine ⟨?_, hmerged.optional_same scalar_text ?_ ?_, hmerged.optional_same scalar_text ?_ ?_,
    hmerged.optional_same scalar_text ?_ ?_⟩
  · have hlower : ∀ lower ∈ base.bind (field? "definition"),
        ConnectionDefinition.ofJson? lower = some c.definition := by
      intro lower hlower
      rcases hbelow with hnone | hread
      · rw [hnone] at hlower
        cases hlower
      · have hdefinition := hread.definition
        rw [hlower] at hdefinition
        exact hdefinition
    have htop : c.toJson.field? "definition" = some c.definition.toJson := rfl
    rw [hmerged.field, htop, Option.map_some, defaultOf?_overlay?]
    exact ConnectionDefinition.ofJson?_overlay? hlower
  · simp [toJson, field?, findEntry]
  · exact hbelow.imp (fun hnone => hnone _) (·.user)
  · simp [toJson, field?, findEntry]
  · exact hbelow.imp (fun hnone => hnone _) (·.password)
  · simp [toJson, field?, findEntry]
  · exact hbelow.imp (fun hnone => hnone _) (·.passwordVariable)

end Connection

/-! ## Settings -/

namespace Settings

/-- Settings over those of a lower layer: what they leave out, and entries whose names they lack, are those
of the lower layer. -/
def above (s below : Settings) : Settings :=
  { s with
    database := s.database.or below.database
    table := s.table.or below.table
    anchorColumns := s.anchorColumns.above below.anchorColumns
    aliases := s.aliases.above below.aliases
    abbreviations := s.abbreviations.above below.abbreviations
    userVariables := s.userVariables.above below.userVariables }

theorem above_initial (s : Settings) : s.above initial = s := by
  simp only [above, initial, Option.or_none, Dict.above_empty]

/-- The fields that settings are read from. -/
structure ReadFrom (field : String → Option Json) (s : Settings) : Prop where
  database : optionalOf? text? (field "database") = some s.database
  table : optionalOf? text? (field "table") = some s.table
  format : defaultOf? (choiceOf? DisplayMode.ofKey?) initial.format (field "format") = some s.format
  runMode : defaultOf? (choiceOf? RunMode.ofName?) initial.runMode (field "run_mode") = some s.runMode
  leader : defaultOf? text? initial.leader (field "leader") = some s.leader
  anchorColumns : defaultOf? (dictOf? text?) initial.anchorColumns (field "anchor_columns") = some s.anchorColumns
  connection : defaultOf? Connection.ofJson? initial.connection (field "connection") = some s.connection
  aliases : defaultOf? (dictOf? text?) initial.aliases (field "aliases") = some s.aliases
  abbreviations : defaultOf? (dictOf? text?) initial.abbreviations (field "abbreviations") = some s.abbreviations
  userVariables : defaultOf? (dictOf? text?) initial.userVariables (field "variables") = some s.userVariables

theorem ofJson?_record_iff {fields : List (String × Json)} {s : Settings} :
    ofJson? (.record fields) = some s ↔ ReadFrom (findEntry · fields) s := by
  constructor
  · intro h
    simp only [ofJson?, fieldNames, fieldValues?, List.map_cons, List.map_nil, Option.bind_eq_bind,
      Option.bind_eq_some_iff] at h
    obtain ⟨database, hdatabase, table, htable, format, hformat, runMode, hrunMode, leader, hleader,
      anchors, hanchors, connection, hconnection, aliases, haliases, abbreviations, habbreviations,
      named, hnamed, h⟩ := h
    cases h
    exact ⟨hdatabase, htable, hformat, hrunMode, hleader, hanchors, hconnection, haliases, habbreviations,
      hnamed⟩
  · intro h
    simp [ofJson?, fieldNames, fieldValues?, h.database, h.table, h.format, h.runMode, h.leader,
      h.anchorColumns, h.connection, h.aliases, h.abbreviations, h.userVariables]

theorem namedOnce_toJson (s : Settings) : s.toJson.NamedOnce := by
  have hnames : fieldNames.Nodup := by decide
  refine hnames.sublist ?_
  rw [List.map_append, List.map_append, List.append_assoc]
  exact (names_optional ..).append ((names_optional ..).append (List.Sublist.refl _))

/-- Settings that are laid over a value are read as they are over the settings that the fields of that value are
read as, but for their connection, which has fields of its own. -/
theorem readFrom_overlaid {base : Option Json} {s below : Settings} {c : Connection}
    {merged : List (String × Json)} (hmerged : Overlaid base s.toJson merged)
    (hordered : ∀ lower ∈ base, lower.isOrdered = true)
    (hbelow : ReadFrom (fun name => base.bind (field? name)) below)
    (hconnection : (overlay? (base.bind (field? "connection")) (some s.connection.toJson.ordered)).bind
      Connection.ofJson? = some c) :
    ReadFrom (findEntry · merged) { s.above below with connection := c } := by
  constructor
  case database =>
    refine hmerged.optional scalar_text ?_ hbelow.database
    simp [toJson, field?, findEntry]
  case table =>
    refine hmerged.optional scalar_text ?_ hbelow.table
    simp [toJson, field?, findEntry]
  case format =>
    refine hmerged.decoded ?_ (DisplayMode.ofKey?_key s.format)
    simp [toJson, field?, findEntry]
  case runMode =>
    refine hmerged.decoded ?_ (RunMode.ofName?_name s.runMode)
    simp [toJson, field?, findEntry]
  case leader =>
    refine hmerged.decoded (s := s.leader) ?_ rfl
    simp [toJson, field?, findEntry]
  case connection =>
    have htop : s.toJson.field? "connection" = some s.connection.toJson := by
      simp [toJson, field?, findEntry]
    rw [hmerged.field, htop, Option.map_some, defaultOf?_overlay?]
    exact hconnection
  case anchorColumns =>
    refine hmerged.dict hordered ?_ hbelow.anchorColumns
    simp [toJson, field?, findEntry]
  case aliases =>
    refine hmerged.dict hordered ?_ hbelow.aliases
    simp [toJson, field?, findEntry]
  case abbreviations =>
    refine hmerged.dict hordered ?_ hbelow.abbreviations
    simp [toJson, field?, findEntry]
  case userVariables =>
    refine hmerged.dict hordered ?_ hbelow.userVariables
    simp [toJson, field?, findEntry]

/-- Settings over a lower layer are read as they were written over the settings that are read from the fields
of that layer. -/
theorem ofJson?_overlay? {base : Option Json} {s below : Settings}
    (hordered : ∀ lower ∈ base, lower.isOrdered = true)
    (hbelow : ReadFrom (fun name => base.bind (field? name)) below)
    (hconnection : ∀ lower ∈ base.bind (field? "connection"), Connection.ofJson? lower = some s.connection) :
    (overlay? base (some s.toJson.ordered)).bind ofJson? = some (s.above below) := by
  obtain ⟨merged, hmerged⟩ := exists_overlaid base s.namedOnce_toJson
  rw [hmerged.eq, Option.bind_some, ofJson?_record_iff]
  exact readFrom_overlaid hmerged hordered hbelow (Connection.ofJson?_overlay? hconnection)

end Settings

end TerseQuery
