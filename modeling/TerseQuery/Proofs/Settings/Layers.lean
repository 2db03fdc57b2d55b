import TerseQuery.Proofs.Failure
import TerseQuery.Proofs.Settings.Files

/-!
# Settings in layers

Settings that were saved in several files are loaded one over the other. Each field is overlaid for itself, so
what a file leaves out is what the files below it say, whatever type of definition they say it of.

* `ofLayers_layered`: what layers of saved settings are loaded as;
* `layered_eq_findSome?`: a field that may be left out is the one of the highest layer that has it;
* `load_layers`: both for files, some of which do not exist;
* `load_switched`: two files whose definitions are of different types.
-/

namespace TerseQuery

open Json

/-! ## Parts of definitions -/

/-- The parts of a definition that some type of definition may leave out. The types share their names. -/
structure DefinitionParts where
  engine : Option String
  driver : Option String
  host : Option String
  port : Option UInt16
  driverOptions : Option String
  deriving DecidableEq, Repr

namespace DefinitionParts

def nothing : DefinitionParts := ⟨none, none, none, none, none⟩

/-- Parts over others: a part that is not named is the other one. -/
def above (p below : DefinitionParts) : DefinitionParts :=
  ⟨p.engine.or below.engine, p.driver.or below.driver, p.host.or below.host, p.port.or below.port,
    p.driverOptions.or below.driverOptions⟩

/-- The fields that parts are read from. -/
structure ReadFrom (field : String → Option Json) (p : DefinitionParts) : Prop where
  engine : optionalOf? text? (field "engine") = some p.engine
  driver : optionalOf? text? (field "driver") = some p.driver
  host : optionalOf? text? (field "host") = some p.host
  port : optionalOf? ConnectionDefinition.port? (field "port") = some p.port
  driverOptions : optionalOf? text? (field "driver_options") = some p.driverOptions

end DefinitionParts

namespace ConnectionDefinition

/-- The parts that a definition names. -/
def parts : ConnectionDefinition → DefinitionParts
  | fullString _ => .nothing
  | fullPath engine _ => { DefinitionParts.nothing with engine := engine }
  | components parts => ⟨some parts.engine, parts.driver, parts.host, parts.port, parts.driverOptions⟩

/-- A definition over parts that were named below it: of those that its type may leave out, it takes what it
leaves out. -/
def atop (d : ConnectionDefinition) (below : DefinitionParts) : ConnectionDefinition :=
  match d with
  | fullString whole => fullString whole
  | fullPath engine path => fullPath (engine.or below.engine) path
  | components parts =>
    components ⟨parts.engine, parts.driver.or below.driver, parts.host.or below.host, parts.port.or below.port,
      parts.driverOptions.or below.driverOptions⟩

theorem completed_atop {field : String → Option Json} {below : DefinitionParts} (h : below.ReadFrom field)
    (d : ConnectionDefinition) : Completed field d (d.atop below) := by
  cases d with
  | fullString whole => exact .fullString whole
  | fullPath engine path => exact .fullPath engine path h.engine
  | components parts => exact .components parts h.driver h.host h.port h.driverOptions

/-- After a definition the parts are those that it names over the ones before. -/
theorem readFrom_above_parts {base : Option Json} {d : ConnectionDefinition} {below : DefinitionParts}
    {merged : List (String × Json)} (h : below.ReadFrom fun name => base.bind (field? name))
    (hmerged : Overlaid base d.toJson merged) : (d.parts.above below).ReadFrom (findEntry · merged) := by
  constructor
  case engine =>
    refine hmerged.optional scalar_text ?_ h.engine
    cases d <;> simp [toJson, parts, DefinitionParts.nothing, field?, findEntry]
  case driver =>
    refine hmerged.optional scalar_text ?_ h.driver
    cases d <;> simp [toJson, parts, DefinitionParts.nothing, field?, findEntry]
  case host =>
    refine hmerged.optional scalar_text ?_ h.host
    cases d <;> simp [toJson, parts, DefinitionParts.nothing, field?, findEntry]
  case port =>
    refine hmerged.optional scalar_port ?_ h.port
    cases d <;> simp [toJson, parts, DefinitionParts.nothing, field?, findEntry]
  case driverOptions =>
    refine hmerged.optional scalar_text ?_ h.driverOptions
    cases d <;> simp [toJson, parts, DefinitionParts.nothing, field?, findEntry]

theorem atop_above_parts (d : ConnectionDefinition) (below : DefinitionParts) :
    d.atop (d.parts.above below) = d.atop below := by
  cases d <;> simp [atop, parts, DefinitionParts.above, ← Option.or_assoc]

end ConnectionDefinition

/-! ## Connections -/

namespace Connection

/-- A connection over another one, and over the parts that definitions below it name. -/
def atop (c below : Connection) (parts : DefinitionParts) : Connection :=
  ⟨c.definition.atop parts, c.user.or below.user, c.password.or below.password,
    c.passwordVariable.or below.passwordVariable⟩

/-- What the layers below leave to a connection. -/
structure LeftIn (value : Option Json) (below : Connection) (parts : DefinitionParts) : Prop where
  user : optionalOf? text? (value.bind (field? "user")) = some below.user
  password : optionalOf? text? (value.bind (field? "password")) = some below.password
  passwordVariable : optionalOf? text? (value.bind (field? "password_env")) = some below.passwordVariable
  parts : parts.ReadFrom fun name => (value.bind (field? "definition")).bind (field? name)

/-- A connection is read over what is left to it, and leaves that with its own. -/
theorem LeftIn.overlay? {base : Option Json} {below : Connection} {parts : DefinitionParts}
    (h : LeftIn base below parts) (c : Connection) :
    ∃ merged, Json.overlay? base (some c.toJson.ordered) = some merged ∧
      ofJson? merged = some (c.atop below parts) ∧
      LeftIn (some merged) (c.atop below parts) (c.definition.parts.above parts) := by
  obtain ⟨fields, hfields⟩ := exists_overlaid base c.namedOnce_toJson
  obtain ⟨definition, hdefinition⟩ :=
    exists_overlaid (base.bind (field? "definition")) c.definition.namedOnce_toJson
  have htop : c.toJson.field? "definition" = some c.definition.toJson := rfl
  have hfound : findEntry "definition" fields = some (.record definition) := by
    rw [hfields.field, htop]
    exact hdefinition.eq
  have huser : optionalOf? text? (findEntry "user" fields) = some (c.user.or below.user) := by
    refine hfields.optional scalar_text ?_ h.user
    simp [toJson, field?, findEntry]
  have hpassword : optionalOf? text? (findEntry "password" fields) = some (c.password.or below.password) := by
    refine hfields.optional scalar_text ?_ h.password
    simp [toJson, field?, findEntry]
  have hvariable : optionalOf? text? (findEntry "password_env" fields) =
      some (c.passwordVariable.or below.passwordVariable) := by
    refine hfields.optional scalar_text ?_ h.passwordVariable
    simp [toJson, field?, findEntry]
  refine ⟨.record fields, hfields.eq, ?_, huser, hpassword, hvariable, ?_⟩
  · refine ofJson?_record_iff.mpr ⟨?_, huser, hpassword, hvariable⟩
    rw [hfound]
    exact ConnectionDefinition.ofJson?_record_iff.mpr
      ((ConnectionDefinition.completed_atop h.parts c.definition).readFrom hdefinition)
  · rw [Option.bind_some, field?, hfound]
    exact ConnectionDefinition.readFrom_above_parts h.parts hdefinition

end Connection

/-! ## Settings -/

namespace Settings

/-- Settings over those of the layers below, and over the parts that definitions in these name. -/
def atop (s below : Settings) (parts : DefinitionParts) : Settings :=
  { s.above below with connection := s.connection.atop below.connection parts }

/-- The parts that the definitions in some layers name, from the highest layer to the lowest. -/
def namedParts : List Settings → DefinitionParts
  | [] => .nothing
  | s :: lower => s.connection.definition.parts.above (namedParts lower)

/-- The settings that some layers make, from the highest layer to the lowest. -/
def layered : List Settings → Settings
  | [] => initial
  | s :: lower => s.atop (layered lower) (namedParts lower)

/-- What layers leave to one above them. -/
structure LayersIn (fields : List (String × Json)) (layers : List Settings) : Prop where
  ordered : isOrdered (.record fields) = true
  settings : ReadFrom (findEntry · fields) (layered layers)
  connection : Connection.LeftIn (findEntry "connection" fields) (layered layers).connection (namedParts layers)

theorem layersIn_nil : LayersIn [] [] :=
  ⟨rfl, by constructor <;> rfl, rfl, rfl, rfl, by constructor <;> rfl⟩

theorem isOrdered_ordered_toJson (s : Settings) : s.toJson.ordered.isOrdered = true :=
  isOrdered_of_read? s.read?_fileText

/-- One more layer. -/
theorem LayersIn.overlay {fields : List (String × Json)} {lower : List Settings} (h : LayersIn fields lower)
    (s : Settings) :
    ∃ merged, Json.overlay (.record fields) s.toJson.ordered = .record merged ∧ LayersIn merged (s :: lower) := by
  obtain ⟨merged, hmerged⟩ := exists_overlaid (some (.record fields)) s.namedOnce_toJson
  obtain ⟨c, hoverlay, hread, hleft⟩ := h.connection.overlay? s.connection
  have heq : Json.overlay (.record fields) s.toJson.ordered = .record merged := Option.some.inj hmerged.eq
  have htop : s.toJson.field? "connection" = some s.connection.toJson := by
    simp [toJson, field?, findEntry]
  have hfound : findEntry "connection" merged = some c := by
    rw [hmerged.field, htop]
    exact hoverlay
  refine ⟨merged, heq, ?_, ?_, ?_⟩
  · rw [← heq]
    exact isOrdered_overlay h.ordered _ s.isOrdered_ordered_toJson
  · refine readFrom_overlaid hmerged (fun lower hlower => ?_) h.settings ?_
    · cases hlower
      exact h.ordered
    · rw [Option.bind_some, field?, hoverlay]
      exact hread
  · rw [hfound]
    exact hleft

theorem exists_layersIn (layers : List Settings) :
    ∃ fields, (layers.reverse.map fun s => s.toJson.ordered).foldl Json.overlay (.record []) = .record fields ∧
      LayersIn fields layers := by
  induction layers with
  | nil => exact ⟨[], rfl, layersIn_nil⟩
  | cons s lower ih =>
    obtain ⟨fields, hfields, hlower⟩ := ih
    obtain ⟨merged, hmerged, hlayers⟩ := hlower.overlay s
    refine ⟨merged, ?_, hlayers⟩
    rw [List.reverse_cons, List.map_append, List.foldl_append, hfields]
    exact hmerged

/-- What layers of saved settings are loaded as. -/
theorem ofLayers_layered (layers : List Settings) :
    ofLayers (layers.reverse.map fun s => s.toJson.ordered) = .ok (layered layers) := by
  obtain ⟨fields, hfields, hlayers⟩ := exists_layersIn layers
  rw [ofLayers_eq_ok, hfields, ofJson?_record_iff]
  exact hlayers.settings

/-! ## What layers make -/

/-- A part of settings that is taken from below where it is missing is the one of the highest layer that has
it. -/
theorem layered_eq_findSome? {α : Type} (part : Settings → Option α) (hinitial : part initial = none)
    (hatop : ∀ s below parts, part (s.atop below parts) = (part s).or (part below)) (layers : List Settings) :
    part (layered layers) = layers.findSome? part := by
  induction layers with
  | nil => exact hinitial
  | cons s lower ih =>
    rw [layered, hatop, ih, List.findSome?_cons]
    cases part s <;> rfl

/-- The same layer twice in a row is that layer once. -/
theorem layered_twice (s : Settings) (lower : List Settings) :
    layered (s :: s :: lower) = layered (s :: lower) := by
  have hdict (d below : Dict String) : d.above (d.above below) = d.above below := by
    apply Dict.ext_get?
    intro key
    rw [Dict.get?_above, Dict.get?_above, ← Option.or_assoc, Option.or_self]
  simp only [layered, namedParts, atop, above, Connection.atop, ConnectionDefinition.atop_above_parts, hdict,
    ← Option.or_assoc, Option.or_self]

/-! ## Files -/

/-- The paths that exist. -/
def found (disk : Disk) (paths : List String) : List String :=
  paths.filter fun path => (disk.find? path).isSome

/-- A path leads to a file in which settings were saved. -/
def Holds (disk : Disk) (path : String) (s : Settings) : Prop :=
  disk.read? path = some s.fileText

/-- A path that does not exist gives no layer. -/
theorem layers_found (disk : Disk) (paths : List String) :
    ((found disk paths).mapM (readLayer disk)).map (·.filterMap id) =
      (paths.mapM (readLayer disk)).map (·.filterMap id) := by
  induction paths with
  | nil => rfl
  | cons path rest ih =>
    cases hfind : disk.find? path with
    | none =>
      have hlayer : readLayer disk path = .ok none := by rw [readLayer, hfind]
      rw [found, List.filter_cons_of_neg (by simp [hfind]), ← found, ih, List.mapM_cons, hlayer]
      cases rest.mapM (readLayer disk) <;> rfl
    | some entry =>
      rw [found, List.filter_cons_of_pos (by simp [hfind]), ← found, List.mapM_cons, List.mapM_cons]
      cases readLayer disk path with
      | error failure => rfl
      | ok layer =>
        have hcons (layers : Except Failure (List (Option Json))) :
            (layers >>= fun rest => pure (layer :: rest)).map (·.filterMap id) =
              (layers.map (·.filterMap id)).map (layer.toList ++ ·) := by
          cases layers <;> cases layer <;> rfl
        exact (hcons _).trans ((congrArg _ ih).trans (hcons _).symm)

theorem load_found (disk : Disk) (paths : List String) : load disk (found disk paths) = load disk paths := by
  have hload (paths : List String) :
      load disk paths = (paths.mapM (readLayer disk)).map (·.filterMap id) >>= ofLayers := by
    rw [load]
    cases paths.mapM (readLayer disk) <;> rfl
  rw [hload, hload, layers_found]

theorem load_of_holds {disk : Disk} {paths : List String} {layers : List Settings}
    (h : List.Forall₂ (Holds disk) paths layers) : load disk paths = .ok (layered layers.reverse) := by
  have hread : List.Forall₂ (fun path layer => readLayer disk path = .ok layer) paths
      (layers.map fun s => some s.toJson.ordered) := by
    rw [List.forall₂_map_right_iff]
    exact h.imp fun path s hs => readLayer_of_read? hs s.read?_fileText
  have hlayers := ofLayers_layered layers.reverse
  rw [List.reverse_reverse] at hlayers
  rw [load, mapM_eq_ok.mpr hread, ← hlayers]
  simp [bind, Except.bind]

/-- A part of settings in the highest layer that has it. The layers are in order from the lowest. -/
def lastGiven? {α : Type} (layers : List Settings) (part : Settings → Option α) : Option α :=
  layers.reverse.findSome? part

/-- The highest file once more. -/
theorem holds_again {disk : Disk} {paths : List String} {lower : List Settings} {top : Settings}
    (h : List.Forall₂ (Holds disk) (found disk paths) (lower ++ [top])) {last : String}
    (hlast : last ∈ (found disk paths).getLast?) :
    List.Forall₂ (Holds disk) (found disk (paths ++ [last])) (lower ++ [top] ++ [top]) := by
  obtain ⟨before, hbefore⟩ := List.getLast?_eq_some_iff.mp hlast
  have hexists : (disk.find? last).isSome = true := by
    have hmem : last ∈ found disk paths := by simp [hbefore]
    exact (List.mem_filter.mp hmem).2
  have hholds : Holds disk last top := by
    rw [hbefore, ← List.forall₂_reverse_iff, List.reverse_append, List.reverse_append] at h
    cases h with
    | cons hholds _ => exact hholds
  rw [found, List.filter_append, ← found, List.filter_singleton, hexists, cond_true]
  exact List.rel_append h (.cons hholds .nil)

/-- Files of saved settings are loaded one over the other. The highest file decides the display format, the run
mode and the leader; what may be left out, and each entry, is the one of the highest file that has it. Paths
that do not exist change nothing wherever they are put in, nor does the highest file once more. -/
theorem load_layers {disk : Disk} {paths : List String} {lower : List Settings} {top : Settings}
    (h : List.Forall₂ (Holds disk) (found disk paths) (lower ++ [top])) :
    let last {α : Type} (part : Settings → Option α) := lastGiven? (lower ++ [top]) part
    ∃ loaded, load disk paths = .ok loaded ∧
      (loaded.format = top.format ∧ loaded.runMode = top.runMode ∧ loaded.leader = top.leader) ∧
      (loaded.database = last (·.database) ∧ loaded.table = last (·.table) ∧
        loaded.connection.user = last (·.connection.user) ∧
        loaded.connection.password = last (·.connection.password) ∧
        loaded.connection.passwordVariable = last (·.connection.passwordVariable)) ∧
      (∀ key, loaded.anchorColumns.get? key = last (·.anchorColumns.get? key) ∧
        loaded.aliases.get? key = last (·.aliases.get? key) ∧
        loaded.abbreviations.get? key = last (·.abbreviations.get? key) ∧
        loaded.userVariables.get? key = last (·.userVariables.get? key)) ∧
      (∀ more, found disk more = found disk paths → load disk more = .ok loaded) ∧
      ∀ highest ∈ (found disk paths).getLast?, load disk (paths ++ [highest]) = .ok loaded := by
  intro last
  have hload : load disk paths = .ok (layered (top :: lower.reverse)) := by
    rw [← load_found, load_of_holds h, List.reverse_append]
    rfl
  have hlast {α : Type} (part : Settings → Option α) (hinitial : part initial = none)
      (hatop : ∀ s below parts, part (s.atop below parts) = (part s).or (part below)) :
      part (layered (top :: lower.reverse)) = last part := by
    rw [layered_eq_findSome? part hinitial hatop]
    simp [last, lastGiven?]
  refine ⟨_, hload, ⟨rfl, rfl, rfl⟩, ⟨?_, ?_, ?_, ?_, ?_⟩, fun key => ⟨?_, ?_, ?_, ?_⟩, fun more hmore => ?_,
    fun highest hhighest => ?_⟩
  · exact hlast _ rfl fun _ _ _ => rfl
  · exact hlast _ rfl fun _ _ _ => rfl
  · exact hlast (·.connection.user) rfl fun _ _ _ => rfl
  · exact hlast (·.connection.password) rfl fun _ _ _ => rfl
  · exact hlast (·.connection.passwordVariable) rfl fun _ _ _ => rfl
  · exact hlast (·.anchorColumns.get? key) rfl fun _ _ _ => Dict.get?_above ..
  · exact hlast (·.aliases.get? key) rfl fun _ _ _ => Dict.get?_above ..
  · exact hlast (·.abbreviations.get? key) rfl fun _ _ _ => Dict.get?_above ..
  · exact hlast (·.userVariables.get? key) rfl fun _ _ _ => Dict.get?_above ..
  · rw [← load_found, hmore, load_found, hload]
  · rw [← load_found, load_of_holds (holds_again h hhighest), List.reverse_append, List.reverse_append]
    exact congrArg _ (layered_twice top lower.reverse)

/-- A disk with two files of settings. -/
def layeredDisk (low high : Settings) : Disk :=
  ((Disk.workingIn []).put ["low.json"] (.file low.fileText)).put ["high.json"] (.file high.fileText)

/-- The path between the two does not exist. The lower file has a table, a password and two aliases, one of which
the higher file has too. -/
theorem load_layers_missing :
    let low := { initial with
      format := .tab, table := some "users", aliases := (Dict.empty.insert "a" "1").insert "b" "2"
      connection := { initial.connection with password := some "" } }
    let high := { initial with database := some "shop", aliases := Dict.empty.insert "b" "3" }
    let disk := layeredDisk low high
    List.Forall₂ (Holds disk) (found disk ["/low.json", "/none.json", "/high.json"]) ([low] ++ [high]) ∧
      ∃ loaded, load disk ["/low.json", "/none.json", "/high.json"] = .ok loaded ∧
        loaded.format = .wrap ∧ loaded.database = some "shop" ∧ loaded.table = some "users" ∧
        loaded.connection.password = some "" ∧ loaded.aliases.get? "a" = some "1" ∧
        loaded.aliases.get? "b" = some "3" ∧ load disk ["/low.json", "/high.json", "/none.json"] = .ok loaded ∧
        load disk ["/low.json", "/none.json", "/high.json", "/high.json"] = .ok loaded := by
  intro low high disk
  have hholds : List.Forall₂ (Holds disk) (found disk ["/low.json", "/none.json", "/high.json"])
      ([low] ++ [high]) := .cons rfl (.cons rfl .nil)
  obtain ⟨loaded, hload, ⟨hformat, -⟩, ⟨hdatabase, htable, -, hpassword, -⟩, hentries, hmissing, hagain⟩ :=
    load_layers hholds
  exact ⟨hholds, loaded, hload, hformat, hdatabase, htable, hpassword, (hentries "a").2.1, (hentries "b").2.1,
    hmissing _ rfl, hagain _ rfl⟩

end Settings

/-! ## Definitions of different types -/

namespace ConnectionDefinition

/-- The type of a definition. -/
def typeName : ConnectionDefinition → String
  | fullString _ => "full_string"
  | fullPath _ _ => "full_path"
  | components _ => "components"

/-- A definition over one of another type: a file without an engine is read by the engine of the components
below it. -/
def switchedFrom (d lower : ConnectionDefinition) : ConnectionDefinition :=
  match d, lower with
  | fullPath none path, components parts => fullPath (some parts.engine) path
  | d, _ => d

theorem atop_of_typeName_ne {d lower : ConnectionDefinition} (h : lower.typeName ≠ d.typeName) :
    d.atop lower.parts = d.switchedFrom lower := by
  cases d with
  | fullString whole => rfl
  | fullPath engine path =>
    cases lower with
    | fullString whole => cases engine <;> rfl
    | fullPath other path => exact absurd rfl h
    | components parts => cases engine <;> rfl
  | components parts =>
    cases lower with
    | fullString whole => simp [atop, switchedFrom, ConnectionDefinition.parts, DefinitionParts.nothing]
    | fullPath engine path => simp [atop, switchedFrom, ConnectionDefinition.parts, DefinitionParts.nothing]
    | components other => exact absurd rfl h

theorem switchedFrom_eq_iff {d lower : ConnectionDefinition} :
    d.switchedFrom lower = d ↔ ∀ parts path, lower = components parts → d ≠ fullPath none path := by
  cases d with
  | fullString whole => simp [switchedFrom]
  | components parts => simp [switchedFrom]
  | fullPath engine path =>
    cases engine with
    | some engine => simp [switchedFrom]
    | none => cases lower <;> simp [switchedFrom]

end ConnectionDefinition

namespace Connection

/-- With a password of its own a connection does not look for one elsewhere. -/
theorem connectionString_congr {a b : Connection} (hdefinition : a.definition = b.definition)
    (huser : a.user = b.user) (hpassword : a.password = b.password) (hown : a.password.isSome = true)
    (environment : Dict String) (database : Option String) :
    a.connectionString environment database = b.connectionString environment database := by
  obtain ⟨password, hown⟩ := Option.isSome_iff_exists.mp hown
  have hresolve (c : Connection) (h : c.password = some password) :
      c.resolvePassword environment = .ok (some password) := by
    rw [resolvePassword, h]
  rw [connectionString, connectionString, hresolve a hown, hresolve b (hpassword ▸ hown), hdefinition, huser]

theorem sqlitePath_congr {a b : Connection} (h : a.definition = b.definition) (database : Option String) :
    a.sqlitePath database = b.sqlitePath database := by
  unfold sqlitePath
  rw [h]

end Connection

namespace Settings

theorem load_pair_of_holds {disk : Disk} {low high : String} {lower higher : Settings}
    (hlow : Holds disk low lower) (hhigh : Holds disk high higher) :
    load disk [low, high] = .ok (layered [higher, lower]) :=
  load_of_holds (.cons hlow (.cons hhigh .nil))

theorem definition_layered_pair (higher lower : Settings) :
    (layered [higher, lower]).connection.definition =
      higher.connection.definition.atop lower.connection.definition.parts := by
  simp [layered, namedParts, atop, Connection.atop, DefinitionParts.above, DefinitionParts.nothing]

/-- Of two files whose definitions are of different types the higher one decides the definition, but for the
engine of a file: where it names none and the lower definition has components, it takes theirs. With its own user
and password the higher file then decides the connection. -/
theorem load_switched {disk : Disk} {low high : String} {lower higher : Settings} (hlow : Holds disk low lower)
    (hhigh : Holds disk high higher)
    (htype : lower.connection.definition.typeName ≠ higher.connection.definition.typeName) :
    let switched := higher.connection.definition.switchedFrom lower.connection.definition
    ∃ loaded, load disk [low, high] = .ok loaded ∧ loaded.connection.definition = switched ∧
      (switched = higher.connection.definition ↔ ∀ parts path,
        lower.connection.definition = .components parts → higher.connection.definition ≠ .fullPath none path) ∧
      (higher.connection.user.isSome = true → higher.connection.password.isSome = true →
        ∀ environment database,
          loaded.connection.connectionString environment database =
              { higher.connection with definition := switched }.connectionString environment database ∧
            loaded.connection.sqlitePath database =
              { higher.connection with definition := switched }.sqlitePath database) := by
  intro switched
  have hdefinition : (layered [higher, lower]).connection.definition = switched := by
    rw [definition_layered_pair, ConnectionDefinition.atop_of_typeName_ne htype]
  refine ⟨_, load_pair_of_holds hlow hhigh, hdefinition, ConnectionDefinition.switchedFrom_eq_iff,
    fun huser hpassword environment database => ⟨?_, Connection.sqlitePath_congr hdefinition database⟩⟩
  have hown {a b : Option String} (h : a.isSome = true) : a.or b = a :=
    Option.or_of_isSome h
  refine Connection.connectionString_congr hdefinition (hown huser) (hown hpassword) ?_ environment database
  exact (congrArg Option.isSome (hown hpassword)).trans hpassword

/-- Settings that connect to the components of a server, below settings that connect to a file. -/
def serverBelow : Settings :=
  { initial with connection := ⟨.components ⟨"postgres", none, some "h", none, none⟩, none, none, none⟩ }

def fileAbove : Settings :=
  { initial with connection := ⟨.fullPath none "/data/shop.db", some "u", some "p", none⟩ }

/-- The file is opened by the engine of the server below it, and so it is none that SQLite can open. -/
theorem load_switched_engine :
    let disk := layeredDisk serverBelow fileAbove
    Holds disk "/low.json" serverBelow ∧ Holds disk "/high.json" fileAbove ∧
      serverBelow.connection.definition.typeName ≠ fileAbove.connection.definition.typeName ∧
      ∃ loaded, load disk ["/low.json", "/high.json"] = .ok loaded ∧
        loaded.connection.definition = .fullPath (some "postgres") "/data/shop.db" ∧
        ∀ environment, loaded.connection.connectionString environment none = .ok "postgres:/data/shop.db" := by
  intro disk
  have hlow : Holds disk "/low.json" serverBelow := by rfl
  have hhigh : Holds disk "/high.json" fileAbove := by rfl
  have htype : serverBelow.connection.definition.typeName ≠ fileAbove.connection.definition.typeName := by decide
  obtain ⟨loaded, hload, hdefinition, -, hanswers⟩ := load_switched hlow hhigh htype
  exact ⟨hlow, hhigh, htype, loaded, hload, hdefinition, fun environment => (hanswers rfl rfl environment none).1⟩

/-- The lower file has another type of definition than the higher one, and yet its engine gets into that one. -/
theorem definition_ne_of_switched :
    let disk := layeredDisk serverBelow fileAbove
    Holds disk "/low.json" serverBelow ∧ Holds disk "/high.json" fileAbove ∧
      serverBelow.connection.definition.typeName ≠ fileAbove.connection.definition.typeName ∧
      ∃ loaded, load disk ["/low.json", "/high.json"] = .ok loaded ∧
        loaded.connection.definition ≠ fileAbove.connection.definition ∧
        fileAbove.connection.sqlitePath none = .ok "/data/shop.db" ∧
        loaded.connection.sqlitePath none = .error (.config .notSqlite) := by
  intro disk
  have hload : load disk ["/low.json", "/high.json"] = .ok (layered [fileAbove, serverBelow]) :=
    load_pair_of_holds rfl rfl
  exact ⟨rfl, rfl, by decide, _, hload, by decide, rfl, by rfl⟩

end Settings

end TerseQuery
