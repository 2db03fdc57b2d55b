import TerseQuery.Proofs.Options.Modes
import TerseQuery.Proofs.Session.Connection
import TerseQuery.Proofs.Session.Output
import TerseQuery.Proofs.Session.Registry

/-!
# The display mode in force

A session keeps the display mode twice: in its settings, where it is shown from, and among its persistent options,
which come first when rows are shown. The command that sets the mode changes both. An option that is set by
itself, by a line or by the text that the session begins with, changes one.

* `Stage.InStep`: no persistent option asks for another mode than the settings do;
* `Stage.sparesMode`: a line sets no option that names another mode;
* `dispatch_keeps_inStep`: such a line keeps the two in step;
* `written_showFormat`, `written_query`: what is written when the mode is asked for, and when rows are shown;
* `shown_mode_in_force`: the mode that is shown is then the one in which rows are shown;
* `shown_mode_not_in_force`: it need not be after an option was set by itself.
-/

namespace TerseQuery

open SessionM

/-! ## The two places in step -/

/-- Whether the persistent options ask for no other display mode than the settings do. -/
def Stage.InStep {ε : Type} (stage : Stage ε) : Prop :=
  stage.session.registry.persistent.ModesWithin [stage.session.settings.format]

theorem OptionMap.ModesWithin.setArguments {modes : List DisplayMode} {map : OptionMap}
    (h : map.ModesWithin modes) {arguments : List String}
    (harguments : ∀ argument ∈ arguments, ∀ mode ∈ DisplayMode.named? argument, mode ∈ modes) :
    (map.setArguments arguments).ModesWithin modes := by
  induction arguments generalizing map with
  | nil => exact h
  | cons argument rest ih =>
    rw [OptionMap.setArguments_cons]
    exact ih (h.set (harguments argument List.mem_cons_self) _) fun other hother =>
      harguments other (List.mem_cons_of_mem _ hother)

theorem Command.Changes.format_eq {s settings : Settings} {command : Command}
    (h : command.Changes s settings) (hsets : ¬ command.SetsOptions) : settings.format = s.format := by
  cases h with
  | setFormat mode => exact absurd (.setFormat mode) hsets
  | define glossary | forget glossary => cases glossary <;> rfl
  | _ => rfl

section
variable {ε : Type} [Engine ε]

theorem Command.setDatabase_keeps_inStep (name : String) : Keeps (Stage.InStep (ε := ε)) (run (.setDatabase name)) := by
  constructor
  intro stage hstage
  rw [after, run_setDatabase name stage rfl]
  rcases Engine.configure _ stage.session.engine with ⟨_ | _, engine⟩ <;> exact hstage

/-- A command that sets no options changes neither of the two places. -/
theorem Command.run_keeps_inStep_of_not_sets {command : Command} (hsets : ¬ command.SetsOptions) :
    Keeps (Stage.InStep (ε := ε)) command.run := by
  have hacts : Stage.ActsAlike (Stage.Diagonal (Stage.InStep (ε := ε))) :=
    Stage.actsAlike_diagonal (fun _ _ hstage => hstage) fun _ _ hstage => hstage
  refine .of_related (run_related hacts ?_ ?_ fun h => absurd h hsets)
  · rintro s _ settings hchanges - ⟨rfl, hstage⟩
    refine ⟨rfl, ?_⟩
    rw [Stage.InStep] at hstage ⊢
    rw [← hchanges.format_eq hsets] at hstage
    exact hstage
  · rintro name rfl
    exact (setDatabase_keeps_inStep name).related

/-- A command keeps the two places in step if the options that it sets name no other display mode. The command for
the mode changes both places. -/
theorem Command.inStep_after_run {command : Command} {stage : Stage ε} (hstage : stage.InStep)
    (harguments : ∀ arguments, command = .setOptions arguments → ∀ argument ∈ arguments,
      ∀ mode ∈ DisplayMode.named? argument, mode = stage.session.settings.format) :
    (after command.run stage).InStep := by
  by_cases hsets : command.SetsOptions
  · cases hsets with
    | setFormat mode => exact .set_mode stage.session.registry.persistent mode .flag
    | unsetOption key => exact OptionMap.ModesWithin.erase hstage key
    | setOptions arguments =>
      have hset : ∀ arguments', (∀ argument ∈ arguments', argument ∈ arguments) →
          (stage.withRegistry (stage.session.registry.setArguments arguments')).InStep := by
        intro arguments' hsub
        rw [Stage.InStep, Stage.registry_withRegistry, OptionRegistry.persistent_setArguments]
        refine OptionMap.ModesWithin.setArguments hstage fun argument hargument mode hmode => ?_
        exact List.mem_singleton.mpr (harguments arguments rfl argument (hsub argument hargument) mode hmode)
      rw [after, run_setOptions]
      cases arguments.dropWhile namesOption with
      | nil => exact hset arguments fun _ h => h
      | cons unnamed rest => exact hset _ fun _ h => (List.takeWhile_sublist _).subset h
  · exact (run_keeps_inStep_of_not_sets hsets).holds stage hstage

/-- A query keeps the two places as they are. -/
theorem SessionM.runQuery_keeps_inStep (q : Query) : Keeps (Stage.InStep (ε := ε)) (runQuery q) :=
  runQuery_keeps (fun _ _ hstage => hstage) (fun _ _ hstage => hstage) q

theorem Stage.inStep_prepared {stage : Stage ε} (hstage : stage.InStep) (tokens : List String) :
    (stage.prepared tokens).InStep := by
  rw [InStep, stage.persistent_prepared, stage.settings_prepared]
  exact hstage

/-- Whether a line that sets options names no other display mode than the settings have. -/
def Stage.sparesMode (stage : Stage ε) (tokens : List String) : Bool :=
  match (stage.session.sort tokens).1.request tokens with
  | .ok (.command (.setOptions arguments)) =>
    arguments.all fun argument => (DisplayMode.named? argument).all (· = stage.session.settings.format)
  | _ => true

/-- Such a line keeps the two places in step. -/
theorem dispatch_keeps_inStep {stage : Stage ε} {tokens : List String} (hspares : stage.sparesMode tokens = true)
    (hstage : stage.InStep) : (after (dispatch tokens) stage).InStep := by
  have hprepared := Stage.inStep_prepared hstage tokens
  by_cases haccepted : Accepted (stage.session.sort tokens).1 stage
  · rw [after, dispatch_of_accepted haccepted]
    rw [Stage.sparesMode] at hspares
    cases hrequest : (stage.session.sort tokens).1.request tokens with
    | error failure => exact hprepared
    | ok request =>
      cases request with
      | query q => exact (runQuery_keeps_inStep q).holds _ hprepared
      | command command =>
        change (after (Request.command command).run (stage.prepared tokens)).InStep
        rw [Request.run, after_bind_pure]
        refine Command.inStep_after_run hprepared fun arguments hsets argument hargument mode hmode => ?_
        rw [hrequest, hsets] at hspares
        have hall := List.all_eq_true.mp hspares argument hargument
        rw [Option.mem_def.mp hmode] at hall
        rw [stage.settings_prepared]
        exact of_decide_eq_true hall
  · obtain ⟨failure, hdispatch⟩ := dispatch_of_not_accepted haccepted
    rw [after, hdispatch]
    exact hprepared

/-- Whether lines one after the other, each where it stands, name no other display mode than the settings have. -/
def Stage.linesSpareMode : List (List String) → Stage ε → Bool
  | [], _ => true
  | tokens :: rest, stage => stage.sparesMode tokens && linesSpareMode rest (after (dispatch tokens) stage)

theorem afterLines_keeps_inStep {lines : List (List String)} {stage : Stage ε}
    (hspares : stage.linesSpareMode lines = true) (hstage : stage.InStep) : (afterLines lines stage).InStep := by
  induction lines generalizing stage with
  | nil => exact hstage
  | cons tokens rest ih =>
    obtain ⟨hfirst, hrest⟩ := Bool.and_eq_true_iff.mp hspares
    exact ih hrest (dispatch_keeps_inStep hfirst hstage)

end

/-! ## What is written -/

section
variable {ε : Type}

/-- The texts that an action writes to an output without end. -/
def SessionM.written {α : Type} (action : SessionM ε α) (stage : Stage ε) : List String :=
  (after action (stage.withOutput .unbounded)).output.writes

theorem SessionM.writes_after_writeLines (stage : Stage ε)
    (houtput : ∀ taken text, stage.output.refusal taken text = none) (lines : List String) :
    (after (writeLines lines) stage).output.writes = stage.output.writes ++ lines.map (· ++ "\n") := by
  rw [after, writeLines, writeAll_eq, Sink.writeAll_of_accepts houtput]

/-- The lines that show a result on a stage in a mode. -/
def Stage.shownLines (stage : Stage ε) (q : Query) (result : ResultSet) (hcolumns : result.hasColumns = true)
    (mode : DisplayMode) : List String :=
  (result.lines hcolumns mode stage.session.width
    (ResultSet.anchorOf result.columns (q.anchorCandidates stage.session.settings))).map (· ++ "\n")

/-- The mode in which the result of a query is shown: the one that its options ask for, or else that of the
settings. -/
def Stage.modeOf (stage : Stage ε) (q : Query) : DisplayMode :=
  q.options.displayMode?.getD stage.session.settings.format

/-- A query without a display mode among its own options is shown in the mode of the settings, if the two places
are in step. -/
theorem modeOf_eq_of_inStep {stage : Stage ε} {tokens : List String} {q : Query} (hstage : stage.InStep)
    (hrequest : (stage.session.sort tokens).1.request tokens = .ok (.query q))
    (hnone : ∀ token ∈ Sorting.lineOptions stage.session.settings.leader tokens, DisplayMode.named? token = none) :
    stage.modeOf q = stage.session.settings.format := by
  have hoptions : q.options = (stage.session.sort tokens).2.registry.effective := Query.options_of_request hrequest
  rw [Stage.modeOf, hoptions]
  refine (OptionRegistry.modesWithin_effective ?_ ?_).displayMode?_getD
  · rw [Session.persistent_sort]
    exact hstage
  · rw [Session.registry_sort]
    refine OptionRegistry.modesWithin_setTokens .empty fun token htoken mode hmode => ?_
    rw [hnone token htoken] at hmode
    cases hmode

theorem SessionM.writes_after_present {q : Query} {kind : QueryKind} {result : ResultSet} (stage : Stage ε)
    (houtput : ∀ taken text, stage.output.refusal taken text = none) (hcolumns : result.hasColumns = true) :
    (after (present q kind result) stage).output.writes =
      stage.output.writes ++ stage.shownLines q result hcolumns (stage.modeOf q) := by
  unfold present
  rw [dif_pos hcolumns]
  change (after (writeLines _ >>= fun _ => pure _) stage).output.writes = _
  rw [after_bind_pure, writes_after_writeLines stage houtput]
  rfl

variable [Engine ε]

theorem SessionM.writes_after_perform {q : Query} {sql : String} {kind : QueryKind} {result : ResultSet}
    (stage : Stage ε) (houtput : ∀ taken text, stage.output.refusal taken text = none) (hruns : q.runs = true)
    (hanswer : (Engine.execute sql stage.session.engine).1 = .ok result) (hcolumns : result.hasColumns = true) :
    (after (perform q sql kind) stage).output.writes =
      stage.output.writes ++ stage.shownLines q result hcolumns (stage.modeOf q) := by
  unfold perform
  rw [if_pos hruns, after, bind_eq, execute_eq]
  rcases hexecute : Engine.execute sql stage.session.engine with ⟨answer, engine⟩
  rw [hexecute] at hanswer
  obtain rfl : answer = .ok result := hanswer
  exact writes_after_present (stage.withEngine engine) houtput hcolumns

/-- A query whose statement has a result writes the statement, if it is shown, and then the rows. -/
theorem SessionM.written_runQuery {q : Query} {sql : String} {kind : QueryKind} {result : ResultSet}
    (stage : Stage ε) (hstatement : q.synthesize = .ok (sql, kind)) (hruns : q.runs = true)
    (hanswer : (Engine.execute sql stage.session.engine).1 = .ok result) (hcolumns : result.hasColumns = true) :
    written (runQuery q) stage =
      (if q.shows then [sql ++ "\n"] else []) ++ stage.shownLines q result hcolumns (stage.modeOf q) := by
  rw [written, after, runQuery_eq, hstatement]
  dsimp only
  cases q.shows with
  | true =>
    rw [if_pos rfl, if_pos rfl]
    exact writes_after_perform (stage.withOutput { Sink.unbounded with writes := [sql ++ "\n"] }) (fun _ _ => rfl)
      hruns hanswer hcolumns
  | false =>
    rw [if_neg Bool.false_ne_true, if_neg Bool.false_ne_true]
    exact writes_after_perform (stage.withOutput .unbounded) (fun _ _ => rfl) hruns hanswer hcolumns

/-- An accepted line writes what is written for what it asks for. -/
theorem written_of_accepted {stage : Stage ε} {tokens : List String} {request : Request}
    (haccepted : Accepted (stage.session.sort tokens).1 stage)
    (hrequest : (stage.session.sort tokens).1.request tokens = .ok request) :
    written (dispatch tokens) stage = written request.run (stage.prepared tokens) := by
  have haccepted' : Accepted ((stage.withOutput .unbounded).session.sort tokens).1 (stage.withOutput .unbounded) :=
    haccepted
  have hdispatch := dispatch_of_accepted haccepted'
  rw [show ((stage.withOutput .unbounded).session.sort tokens).1.request tokens = .ok request from hrequest,
    Stage.prepared_withOutput] at hdispatch
  rw [written, after, hdispatch]
  rfl

/-- A line that asks for the mode writes that of the settings. -/
theorem written_showFormat {stage : Stage ε} {tokens : List String}
    (haccepted : Accepted (stage.session.sort tokens).1 stage)
    (hrequest : (stage.session.sort tokens).1.request tokens = .ok (.command .showFormat)) :
    written (dispatch tokens) stage = [stage.session.settings.format.key ++ "\n"] := by
  have hrun : Command.run .showFormat ((stage.prepared tokens).withOutput .unbounded) =
      writeLine (stage.prepared tokens).session.settings.format.key
        ((stage.prepared tokens).withOutput .unbounded) := rfl
  rw [written_of_accepted haccepted hrequest, written, Request.run, after_bind_pure, after, hrun,
    stage.settings_prepared]
  exact writes_after_writeLines ((stage.prepared tokens).withOutput .unbounded) (fun _ _ => rfl)
    [stage.session.settings.format.key]

/-- What a line that is for a query gets: its statement is executed and has a result. -/
structure Stage.Returns (stage : Stage ε) (tokens : List String) (q : Query) (sql : String) (result : ResultSet) :
    Prop where
  accepted : Accepted (stage.session.sort tokens).1 stage
  request : (stage.session.sort tokens).1.request tokens = .ok (.query q)
  statement : ∃ kind, q.synthesize = .ok (sql, kind)
  runs : q.runs = true
  answer : (Engine.execute sql (stage.prepared tokens).session.engine).1 = .ok result

theorem written_query {stage : Stage ε} {tokens : List String} {q : Query} {sql : String} {result : ResultSet}
    (h : stage.Returns tokens q sql result) (hcolumns : result.hasColumns = true) :
    written (dispatch tokens) stage =
      (if q.shows then [sql ++ "\n"] else []) ++ stage.shownLines q result hcolumns (stage.modeOf q) := by
  obtain ⟨kind, hstatement⟩ := h.statement
  rw [written_of_accepted h.accepted h.request, Request.run,
    written_runQuery (stage.prepared tokens) hstatement h.runs h.answer hcolumns]
  simp only [Stage.shownLines, Stage.modeOf, stage.settings_prepared, stage.width_prepared]

end

/-! ## The mode that is shown -/

section
variable {ε : Type}

/-- A session whose text names no other display mode begins in step. -/
theorem Session.inStep_seed {settings : Settings} {engine : ε} {width : TerminalWidth} {extra : Option String}
    {s : Session ε}
    (hextra : ∀ token ∈ OptionRegistry.seedTokens (extra.getD ""), ∀ mode ∈ DisplayMode.named? token,
      mode = settings.format)
    (h : (Session.start settings engine width).seed extra = .ok s) (disk : Disk) (places : SettingsPlaces)
    (output : Sink) : Stage.InStep ⟨s, disk, places, output⟩ := by
  obtain ⟨registry, hregistry, rfl⟩ := Session.exists_of_seed h
  exact OptionRegistry.modesWithin_seed .empty hextra hregistry

variable [Engine ε]

/-- Whether a display mode is the one that a stage shows when it is asked for it, and the one in which it shows
rows of queries that have no display mode among their own options. -/
structure Stage.ShowsIn (mode : DisplayMode) (stage : Stage ε) : Prop where
  asked : ∀ tokens, Accepted (stage.session.sort tokens).1 stage →
    (stage.session.sort tokens).1.request tokens = .ok (.command .showFormat) →
      written (dispatch tokens) stage = [mode.key ++ "\n"]
  rows : ∀ tokens q sql result, ∀ hcolumns : result.hasColumns = true, stage.Returns tokens q sql result →
    (∀ token ∈ Sorting.lineOptions stage.session.settings.leader tokens, DisplayMode.named? token = none) →
      written (dispatch tokens) stage =
        (if q.shows then [sql ++ "\n"] else []) ++ stage.shownLines q result hcolumns mode

theorem Stage.InStep.showsIn {stage : Stage ε} (h : stage.InStep) : stage.ShowsIn stage.session.settings.format where
  asked _ haccepted hrequest := written_showFormat haccepted hrequest
  rows _ _ _ _ hcolumns hreturns hnone := by
    rw [written_query hreturns hcolumns, modeOf_eq_of_inStep h hreturns.request hnone]

/-- The mode that is shown is the one in force, in every session whose text and whose lines set no option by itself
that names another display mode than the settings have. -/
theorem shown_mode_in_force (settings : Settings) (engine : ε) (width : TerminalWidth) (extra : Option String)
    (disk : Disk) (places : SettingsPlaces) (output : Sink) (lines : List (List String)) {s : Session ε}
    (hseed : (Session.start settings engine width).seed extra = .ok s)
    (hextra : ∀ token ∈ OptionRegistry.seedTokens (extra.getD ""), ∀ mode ∈ DisplayMode.named? token,
      mode = settings.format)
    (hlines : Stage.linesSpareMode lines ⟨s, disk, places, output⟩ = true) :
    ∃ mode : DisplayMode, (afterLines lines ⟨s, disk, places, output⟩).ShowsIn mode := by
  have hstep := afterLines_keeps_inStep hlines (Session.inStep_seed hextra hseed disk places output)
  exact ⟨_, hstep.showsIn⟩

end

/-- A result of one row. -/
def ResultSet.oneRow : ResultSet :=
  .ofRows ["id", "name"] [[.integer 1, .text "a"]]

/-- A session whose engine has one row for each statement. -/
def Session.oneRow : Session Scripted :=
  .start Settings.initial ⟨.ok .oneRow⟩ none

/-- The same session with its persistent options set up. -/
def Session.oneRowSeeded (extra : Option String) : Session Scripted :=
  { oneRow with
    registry := ⟨(RegistryOp.seedChanges .wrap .run extra).foldl OptionMap.change .empty, .empty, true⟩ }

theorem Session.seed_oneRow (extra : Option String) : oneRow.seed extra = .ok (oneRowSeeded extra) := by
  rw [seed, OptionRegistry.seed_of_not_seeded _ rfl]
  rfl

/-- Lines that change the mode by its command and then set options, the mode among them. -/
def modeLines : List (List String) :=
  [["\\format", "tab"], ["\\set", "a", "tab"], ["users", "-vertical"], ["\\unset", "r"]]

theorem shown_mode_in_force_changed :
    (∀ token ∈ OptionRegistry.seedTokens ((some "-q -wrap").getD ""), ∀ mode ∈ DisplayMode.named? token,
        mode = Settings.initial.format) ∧
      Stage.linesSpareMode modeLines (Session.oneRowSeeded (some "-q -wrap")).alone = true ∧
      ∃ mode : DisplayMode, (afterLines modeLines (Session.oneRowSeeded (some "-q -wrap")).alone).ShowsIn mode := by
  have hextra : ∀ token ∈ OptionRegistry.seedTokens ((some "-q -wrap").getD ""),
      ∀ mode ∈ DisplayMode.named? token, mode = Settings.initial.format := by decide +kernel
  have hlines : Stage.linesSpareMode modeLines (Session.oneRowSeeded (some "-q -wrap")).alone = true := by
    decide +kernel
  exact ⟨hextra, hlines, shown_mode_in_force _ _ _ _ _ _ _ _ (Session.seed_oneRow _) hextra hlines⟩

/-- An engine that gives one answer stays as it is. -/
theorem engine_afterLines_scripted (lines : List (List String)) (stage : Stage Scripted) :
    (afterLines lines stage).session.engine = stage.session.engine := by
  have hkeeps : ∀ tokens, Keeps (fun last : Stage Scripted => last.session.engine = stage.session.engine)
      (dispatch tokens) := by
    refine dispatch_keeps (fun before next heffect h => ?_) (fun _ _ _ _ h => h) fun _ _ h => h
    cases heffect with
    | option argument => exact (Stage.engine_withRegistry _ _).trans h
    | _ => exact h
  exact afterLines_keeps hkeeps lines rfl

/-- A session after a line that sets the option of a mode by itself. -/
def Stage.tabbed : Stage Scripted :=
  afterLines [["\\set", "tab"]] (Session.oneRowSeeded none).alone

/-- An option that is set by itself leaves the mode in the settings, and that one is shown when it is asked for.
Rows are shown in another. -/
theorem shown_mode_not_in_force : Session.oneRow.seed none = .ok (Session.oneRowSeeded none) ∧
    written (dispatch ["\\format"]) Stage.tabbed = ["wrap\n"] ∧
      written (dispatch ["users"]) Stage.tabbed = ["id\tname\n", "1\ta\n"] ∧
        ∀ mode : DisplayMode, ¬ Stage.tabbed.ShowsIn mode := by
  have hshown : written (dispatch ["\\format"]) Stage.tabbed = ["wrap\n"] := by decide +kernel
  have hrows : written (dispatch ["users"]) Stage.tabbed = ["id\tname\n", "1\ta\n"] := by decide +kernel
  refine ⟨Session.seed_oneRow none, hshown, hrows, fun mode hmode => ?_⟩
  have hasked := hmode.asked ["\\format"] (fun _ _ => rfl) (by decide +kernel)
  obtain ⟨q, hq⟩ : ∃ q, { (Stage.tabbed.session.sort ["users"]).1 with kind := some .select } = q := ⟨_, rfl⟩
  have hreturns : Stage.tabbed.Returns ["users"] q "SELECT * FROM users" .oneRow := by
    rw [← hq]
    exact {
      accepted := fun _ _ => rfl
      request := by decide +kernel
      statement := ⟨.select, by decide +kernel⟩
      runs := by decide +kernel
      answer := by
        rw [Stage.prepared_of_credential?_eq_none (by decide +kernel)]
        exact congrArg Scripted.answer (engine_afterLines_scripted _ _) }
  have hlast := hmode.rows ["users"] q _ _ (by decide +kernel) hreturns (by decide +kernel)
  rw [hshown] at hasked
  rw [hrows, ← hq] at hlast
  cases mode with
  | wrap => exact absurd hlast (by decide +kernel)
  | tab | nowrap | vertical => exact absurd hasked (by decide)

end TerseQuery
