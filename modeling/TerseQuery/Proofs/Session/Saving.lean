import TerseQuery.Proofs.Session.Invariants
import TerseQuery.Proofs.Settings.Files

/-!
# Settings that a session saved

* `Session.Frame`: what the lines of a session leave of the settings that it began with;
* `loadFrom_save`: settings that a session saved in the file of the working directory are loaded as they were,
  but for what the session removed and the file of the user still holds.
-/

namespace TerseQuery

/-! ## What a lower layer gives back -/

namespace Settings

/-- Settings with what commands can remove and a lower layer gives back: its table, and its entries with other
names. -/
def restored (s below : Settings) : Settings :=
  { s with
    table := s.table.or below.table
    aliases := s.aliases.above below.aliases
    abbreviations := s.abbreviations.above below.abbreviations
    userVariables := s.userVariables.above below.userVariables }

/-- Whether settings lack nothing that a lower layer would give back. -/
structure Covers (s below : Settings) : Prop where
  table : below.table.isSome = true → s.table.isSome = true
  glossary : ∀ which name, ((below.glossary which).get? name).isSome = true →
    ((s.glossary which).get? name).isSome = true

theorem glossary_restored (s below : Settings) (which : Glossary) :
    (s.restored below).glossary which = (s.glossary which).above (below.glossary which) := by
  cases which <;> rfl

/-- A lower layer gives nothing back just if the settings lack nothing of it. -/
theorem restored_eq_iff {s below : Settings} : s.restored below = s ↔ s.Covers below := by
  constructor
  · intro h
    have htable : s.table.or below.table = s.table := congrArg Settings.table h
    refine ⟨or_eq_left_iff.mp htable, fun which => ?_⟩
    rw [← Dict.above_eq_iff, ← glossary_restored, h]
  · intro h
    have hglossary which : (s.glossary which).above (below.glossary which) = s.glossary which :=
      Dict.above_eq_iff.mpr (h.glossary which)
    have haliases : s.aliases.above below.aliases = s.aliases := hglossary .aliases
    have habbreviations : s.abbreviations.above below.abbreviations = s.abbreviations := hglossary .abbreviations
    have hvariables : s.userVariables.above below.userVariables = s.userVariables := hglossary .userVariables
    rw [restored, or_eq_left_iff.mpr h.table, haliases, habbreviations, hvariables]

theorem restored_initial (s : Settings) : s.restored initial = s := by
  simp only [restored, initial, Option.or_none, Dict.above_empty]

/-- What lines leave of the settings that a session began with: they change neither the connection nor the
anchor columns, and take no database away. -/
structure Frame (first s : Settings) : Prop where
  connection : s.connection = first.connection
  anchorColumns : s.anchorColumns = first.anchorColumns
  database : first.database.isSome = true → s.database.isSome = true

theorem Frame.refl (s : Settings) : Frame s s := ⟨rfl, rfl, id⟩

/-- Over the settings that a session began with, those that it ends with only get back what it removed. -/
theorem Frame.above_eq {first s : Settings} (h : Frame first s) : s.above first = s.restored first := by
  have hdatabase : s.database.or first.database = s.database := or_eq_left_iff.mpr h.database
  rw [above, hdatabase, ← h.anchorColumns, Dict.above_self]
  rfl

end Settings

/-! ## What lines leave -/

section
variable {ε : Type}

/-- Whether a stage has what lines leave of some settings, and its places. -/
structure Stage.Frame (first : Settings) (places : SettingsPlaces) (stage : Stage ε) : Prop where
  settings : first.Frame stage.session.settings
  places : stage.places = places

variable [Engine ε] {first : Settings} {places : SettingsPlaces} {stage next : Stage ε}

theorem Effect.frame (h : Effect stage next) (hstage : stage.Frame first places) : next.Frame first places := by
  have hsettings := hstage.settings
  rw [← h.settings_eq] at hsettings
  exact ⟨hsettings, h.places_eq.trans hstage.places⟩

theorem Command.Changes.frame {command : Command} {s changed : Settings} (h : command.Changes s changed)
    (hframe : first.Frame s) : first.Frame changed := by
  cases h with
  | setDatabase name => exact ⟨hframe.connection, hframe.anchorColumns, fun _ => rfl⟩
  | define which name value => cases which <;> exact ⟨hframe.connection, hframe.anchorColumns, hframe.database⟩
  | forget which name => cases which <;> exact ⟨hframe.connection, hframe.anchorColumns, hframe.database⟩
  | _ => exact ⟨hframe.connection, hframe.anchorColumns, hframe.database⟩

theorem dispatch_keeps_frame (tokens : List String) :
    SessionM.Keeps (ε := ε) (Stage.Frame first places) (dispatch tokens) :=
  dispatch_keeps (fun _ _ => Effect.frame)
    (fun _ _ _ hchanges hstage => ⟨hchanges.frame hstage.settings, hstage.places⟩)
    (fun _ _ hstage => ⟨hstage.settings, hstage.places⟩) tokens

end

/-! ## Saving and loading -/

open SessionM

variable {ε : Type} [Engine ε]

/-- A command that saves succeeds only if the file was written. -/
theorem Command.run_save {path : Option String} {stage last : Stage ε}
    (h : run (.save path) stage = .ok () last) :
    last.session = stage.session ∧
      stage.session.settings.save stage.disk (path.getD stage.places.localFile) = (last.disk, .ok ()) := by
  rcases hsaved : stage.session.settings.save stage.disk (path.getD stage.places.localFile) with ⟨disk, saved⟩
  have hrun : run (.save path) stage =
      (ofExcept saved >>= fun _ => writeLine s!"Settings saved to {path.getD stage.places.localFile}" :
        SessionM ε Unit) { stage with disk } := by
    have hget : (get : SessionM ε (Stage ε)) stage = .ok stage stage := rfl
    rw [run, bind_eq, hget]
    dsimp only
    rw [hsaved]
    rfl
  rw [hrun, bind_eq] at h
  cases saved with
  | error failure => cases h
  | ok value =>
    have hok : (ofExcept (.ok value) : SessionM ε Unit) { stage with disk } = .ok value { stage with disk } := rfl
    rw [hok] at h
    dsimp only at h
    rw [writeLine, writeLines, writeAll_eq] at h
    split at h
    · cases h
      exact ⟨rfl, rfl⟩
    · cases h

/-- A line that saves and succeeds leaves the settings, and their text in the file. -/
theorem read?_of_dispatch_save {tokens : List String} {path : Option String} {stage last : Stage ε}
    {outcome : Outcome} (hrequest : (stage.session.sort tokens).1.request tokens = .ok (.command (.save path)))
    (h : dispatch tokens stage = .ok outcome last) :
    last.disk.read? (path.getD stage.places.localFile) = some last.session.settings.fileText := by
  have hplaces := (applyCredential_keeps (I := fun middle => middle.places = stage.places)
    (fun _ _ heffect hbefore => heffect.places_eq.trans hbefore) (stage.session.sort tokens).1).holds
      { stage with session := (stage.session.sort tokens).2 } rfl
  rw [dispatch_eq, hrequest] at h
  rw [after] at hplaces
  cases hmiddle : applyCredential (stage.session.sort tokens).1
      { stage with session := (stage.session.sort tokens).2 } with
  | error failure middle =>
    rw [hmiddle] at h
    cases h
  | ok value middle =>
    rw [hmiddle] at h hplaces
    dsimp only at h hplaces
    rw [Request.run, bind_eq] at h
    cases hrun : Command.run (.save path) middle with
    | error failure last =>
      rw [hrun] at h
      cases h
    | ok value last =>
      rw [hrun] at h
      cases h
      obtain ⟨hsession, hsaved⟩ := Command.run_save hrun
      rw [hsession, ← hplaces]
      exact Settings.read?_of_save hsaved

/-- The settings that the file of the user leaves to the file of the working directory. -/
def Settings.leftByUser (disk : Disk) (places : SettingsPlaces) : Settings :=
  match readLayer disk places.globalFile with
  | .ok layer => leftBy layer
  | .error _ => initial

/-- A session that began with the file of the user alone, the last line of which saved the settings in the file
of the working directory. -/
structure SavedRun (start : Stage ε) (lines : List (List String)) (last : Stage ε) : Prop where
  loaded : Settings.loadFrom start.disk start.places = .ok start.session.settings
  alone : start.disk.find? start.places.localFile = none
  saved : ∃ tokens outcome, ((afterLines lines start).session.sort tokens).1.request tokens =
    .ok (.command (.save none)) ∧ dispatch tokens (afterLines lines start) = .ok outcome last
  kept : last.disk.find? start.places.globalFile = start.disk.find? start.places.globalFile

/-- What is loaded after a session is what it saved and what the file of the user gives back. -/
theorem SavedRun.loadFrom_eq {start last : Stage ε} {lines : List (List String)}
    (h : SavedRun start lines last) : Settings.loadFrom last.disk start.places =
      .ok (last.session.settings.restored (Settings.leftByUser start.disk start.places)) := by
  obtain ⟨tokens, outcome, hrequest, hsave⟩ := h.saved
  have hbefore : (afterLines lines start).Frame start.session.settings start.places :=
    afterLines_keeps dispatch_keeps_frame lines ⟨.refl _, rfl⟩
  have hlast : last.Frame start.session.settings start.places := by
    have hafter := (dispatch_keeps_frame tokens).holds _ hbefore
    rw [after, hsave] at hafter
    exact hafter
  obtain ⟨layer, hlayer, hfirst⟩ := Settings.exists_layer h.loaded h.alone
  have hordered := Settings.isOrdered_of_readLayer hlayer
  -- the lower layer is the same when it is loaded again, the upper one is what was saved
  have hlower : Settings.readLayer last.disk start.places.globalFile = .ok layer := by
    rw [← hlayer, Settings.readLayer, Settings.readLayer, h.kept]
  have hupper : Settings.readLayer last.disk start.places.localFile =
      .ok (some last.session.settings.toJson.ordered) := by
    have hread := read?_of_dispatch_save hrequest hsave
    rw [hbefore.places] at hread
    exact Settings.readLayer_of_read? hread last.session.settings.read?_fileText
  rw [Settings.loadFrom, Settings.load_pair hlower hupper, Settings.leftByUser, hlayer]
  dsimp only
  rw [Option.toList_some, Settings.ofLayers_leftBy hordered hfirst hlast.settings.connection]
  rcases Settings.leftBy_cases hordered hfirst with ⟨hleft, -⟩ | ⟨hleft, -⟩
  · rw [hleft, hlast.settings.above_eq]
  · rw [hleft, Settings.above_initial, Settings.restored_initial]

/-- Settings that a session saves in the file of the working directory are loaded as they are, but for the
table and the entries that the session removed and the file of the user holds. They are loaded as they are
just if there are none of those. -/
theorem loadFrom_save {start last : Stage ε} {lines : List (List String)} (h : SavedRun start lines last) :
    Settings.loadFrom last.disk start.places =
        .ok (last.session.settings.restored (Settings.leftByUser start.disk start.places)) ∧
      (Settings.loadFrom last.disk start.places = .ok last.session.settings ↔
        last.session.settings.Covers (Settings.leftByUser start.disk start.places)) := by
  refine ⟨h.loadFrom_eq, ?_⟩
  rw [h.loadFrom_eq, Except.ok.injEq, Settings.restored_eq_iff]

/-! ## A table that is cleared -/

/-- A session that began with a file of the user that names a table. -/
def Stage.tabled : Stage Scripted where
  session := .start { Settings.initial with table := some "users" } ⟨.error .missingTable⟩ none
  disk := (((Disk.workingIn ["work"]).put ["user"] .directory).put ["miniquery", "user"] .directory).put
    ["settings.json", "miniquery", "user"] (.file "\x7b\"table\": \"users\"\x7d")
  places := .ofDirectories ["work"] ["user"]
  output := .unbounded

theorem Stage.loadFrom_tabled :
    Settings.loadFrom tabled.disk tabled.places = .ok tabled.session.settings := by
  decide +kernel

theorem Stage.leftByUser_tabled :
    Settings.leftByUser tabled.disk tabled.places = { Settings.initial with table := some "users" } := by
  decide +kernel

/-- The session clears its table and saves. -/
theorem Stage.savedRun_tabled :
    ∃ last, SavedRun tabled [["\\clear"]] last ∧ last.session.settings = Settings.initial := by
  have hasked : ((afterLines [["\\clear"]] tabled).session.sort ["\\save"]).1.request ["\\save"] =
      .ok (.command (.save none)) := by
    have hname : ((afterLines [["\\clear"]] tabled).session.sort ["\\save"]).1.foldedCommand? = some "save" := by
      decide +kernel
    have hwords : Command.ofWords "save" (commandArguments ["\\save"]) = .ok (.save none) := by decide +kernel
    rw [Query.request_of_command hname (by decide +kernel) (by decide), hwords]
    rfl
  have hsaved : (dispatch ["\\save"]).result (afterLines [["\\clear"]] tabled) = .ok .command := by
    decide +kernel
  have hkept : (after (dispatch ["\\save"]) (afterLines [["\\clear"]] tabled)).disk.find?
      tabled.places.globalFile = tabled.disk.find? tabled.places.globalFile := by decide +kernel
  have halone : tabled.disk.find? tabled.places.localFile = none := by decide +kernel
  have hsettings : (after (dispatch ["\\save"]) (afterLines [["\\clear"]] tabled)).session.settings =
      Settings.initial := by decide +kernel
  exact ⟨_, ⟨loadFrom_tabled, halone, ⟨_, _, hasked, eq_ok_of_result hsaved⟩, hkept⟩, hsettings⟩

/-- What the session saves has no table, and what is loaded then has the one that was cleared. -/
theorem loadFrom_ne_of_cleared : ∃ last, SavedRun Stage.tabled [["\\clear"]] last ∧
    last.session.settings.table = none ∧
      Settings.loadFrom last.disk Stage.tabled.places =
        .ok { last.session.settings with table := some "users" } ∧
      Settings.loadFrom last.disk Stage.tabled.places ≠ .ok last.session.settings := by
  obtain ⟨last, hrun, hsettings⟩ := Stage.savedRun_tabled
  have hloaded := hrun.loadFrom_eq
  rw [Stage.leftByUser_tabled] at hloaded
  refine ⟨last, hrun, by rw [hsettings]; rfl, ?_, ?_⟩
  · rw [hloaded, hsettings]
    rfl
  · rw [hloaded, hsettings, ne_eq, Except.ok.injEq]
    decide +kernel

/-- The same session, by what is loaded after any. -/
theorem loadFrom_save_tabled : ∃ last, SavedRun Stage.tabled [["\\clear"]] last ∧
    Settings.loadFrom last.disk Stage.tabled.places =
      .ok (last.session.settings.restored { Settings.initial with table := some "users" }) := by
  obtain ⟨last, hrun, -⟩ := Stage.savedRun_tabled
  have hloaded := (loadFrom_save hrun).1
  rw [Stage.leftByUser_tabled] at hloaded
  exact ⟨last, hrun, hloaded⟩

end TerseQuery
