import TerseQuery.Proofs.Session.Steps

/-!
# Two stages side by side

An action done on two stages that stand in a relation comes to the same, and leaves them in it, if what the
action reads and writes does. A property of one stage is a relation of the stage to itself.

* `SessionM.Related`: actions that come to the same on related stages, with one rule for each way to build an
  action;
* `Stage.ShowsAlike`, `Stage.ActsAlike`, `Stage.Corresponds`: relations that cannot be told apart by what
  queries, other commands and all commands read, and are kept by what they write;
* `Command.run_related`, `SessionM.runQuery_related`, `dispatch_related`: commands, queries and lines;
* `transcript_related`: lines one after the other.
-/

namespace TerseQuery

variable {ε δ : Type}

/-! ## Actions -/

namespace SessionM

variable {α β α' β' : Type} {R : Stage ε → Stage δ → Prop} {V : α → β → Prop} {W : α' → β' → Prop}

/-- What two actions come to on related stages: values that are related too, or one failure. -/
inductive ResultsRelated (R : Stage ε → Stage δ → Prop) (V : α → β → Prop) :
    EStateM.Result Failure (Stage ε) α → EStateM.Result Failure (Stage δ) β → Prop where
  | ok {x : α} {y : β} {s : Stage ε} {t : Stage δ} (hvalue : V x y) (hstage : R s t) :
      ResultsRelated R V (.ok x s) (.ok y t)
  | error {s : Stage ε} {t : Stage δ} (failure : Failure) (hstage : R s t) :
      ResultsRelated R V (.error failure s) (.error failure t)

/-- Actions that come to related results on related stages. -/
structure Related (R : Stage ε → Stage δ → Prop) (V : α → β → Prop) (first : SessionM ε α)
    (second : SessionM δ β) : Prop where
  holds : ∀ s t, R s t → ResultsRelated R V (first s) (second t)

/-- Two outcomes of a step: values that are related, or one failure. -/
inductive SameOutcome (V : α → β → Prop) : Except Failure α → Except Failure β → Prop where
  | ok {x : α} {y : β} (hvalue : V x y) : SameOutcome V (.ok x) (.ok y)
  | error (failure : Failure) : SameOutcome V (.error failure) (.error failure)

theorem SameOutcome.refl {V : α → α → Prop} (hV : ∀ x, V x x) (x : Except Failure α) : SameOutcome V x x := by
  cases x with
  | ok value => exact .ok (hV value)
  | error failure => exact .error failure

theorem ResultsRelated.imp {S : Stage ε → Stage δ → Prop} (h : ∀ s t, R s t → S s t)
    {result : EStateM.Result Failure (Stage ε) α} {other : EStateM.Result Failure (Stage δ) β}
    (hresults : ResultsRelated R V result other) : ResultsRelated S V result other := by
  cases hresults with
  | ok hvalue hstage => exact .ok hvalue (h _ _ hstage)
  | error failure hstage => exact .error failure (h _ _ hstage)

theorem ResultsRelated.after {first : SessionM ε α} {second : SessionM δ β} {s : Stage ε} {t : Stage δ}
    (h : ResultsRelated R V (first s) (second t)) : R (after first s) (after second t) := by
  rw [SessionM.after, SessionM.after]
  generalize first s = result, second t = other at h
  cases h with
  | ok hvalue hstage => exact hstage
  | error failure hstage => exact hstage

theorem ResultsRelated.result_eq {first : SessionM ε α} {second : SessionM δ α} {s : Stage ε} {t : Stage δ}
    (h : ResultsRelated R Eq (first s) (second t)) : result second t = result first s := by
  rw [SessionM.result, SessionM.result]
  generalize first s = found, second t = other at h
  cases h with
  | ok hvalue hstage => rw [hvalue]
  | error failure hstage => rfl

namespace Related

theorem pure {x : α} {y : β} (h : V x y) : Related R V (pure x) (pure y) :=
  ⟨fun _ _ hstage => .ok h hstage⟩

theorem throw (failure : Failure) :
    Related R V (throw failure : SessionM ε α) (throw failure : SessionM δ β) :=
  ⟨fun _ _ hstage => .error failure hstage⟩

theorem ofExcept {x : Except Failure α} {y : Except Failure β} (h : SameOutcome V x y) :
    Related R V (ofExcept x) (ofExcept y) := by
  cases h with
  | ok hvalue => exact ⟨fun _ _ hstage => .ok hvalue hstage⟩
  | error failure => exact ⟨fun _ _ hstage => .error failure hstage⟩

theorem modify {change : Stage ε → Stage ε} {other : Stage δ → Stage δ}
    (h : ∀ s t, R s t → R (change s) (other t)) :
    Related R Eq (modify change : SessionM ε Unit) (modify other : SessionM δ Unit) :=
  ⟨fun s t hstage => .ok rfl (h s t hstage)⟩

theorem bind {first : SessionM ε α} {second : SessionM δ β} {next : α → SessionM ε α'}
    {other : β → SessionM δ β'} (h : Related R V first second)
    (hnext : ∀ x y, V x y → Related R W (next x) (other y)) :
    Related R W (first >>= next) (second >>= other) := by
  constructor
  intro s t hstage
  have hresults := h.holds s t hstage
  rw [bind_eq, bind_eq]
  cases hfirst : first s with
  | ok x s' =>
    rw [hfirst] at hresults
    cases hsecond : second t with
    | ok y t' =>
      rw [hsecond] at hresults
      cases hresults with
      | ok hvalue hlast => exact (hnext x y hvalue).holds s' t' hlast
    | error failure t' =>
      rw [hsecond] at hresults
      cases hresults
  | error failure s' =>
    rw [hfirst] at hresults
    cases hsecond : second t with
    | ok y t' =>
      rw [hsecond] at hresults
      cases hresults
    | error other t' =>
      rw [hsecond] at hresults
      cases hresults with
      | error failure hlast => exact .error failure hlast

/-- Actions in a row of which the first give equal values. -/
theorem bind_same {first : SessionM ε α} {second : SessionM δ α} {next : α → SessionM ε α'}
    {other : α → SessionM δ β'} (h : Related R Eq first second)
    (hnext : ∀ x, Related R W (next x) (other x)) : Related R W (first >>= next) (second >>= other) :=
  h.bind fun x _ hvalue => hvalue ▸ hnext x

/-- Actions that go on from what the stage is. -/
theorem get_bind {next : Stage ε → SessionM ε α'} {other : Stage δ → SessionM δ β'}
    (h : ∀ s t, R s t → Related R W (next s) (other t)) :
    Related R W (get >>= next : SessionM ε α') (get >>= other : SessionM δ β') :=
  ⟨fun s t hstage => (h s t hstage).holds s t hstage⟩

/-- Actions that go on from what the session is. -/
theorem session_bind {next : Session ε → SessionM ε α'} {other : Session δ → SessionM δ β'}
    (h : ∀ s t, R s t → Related R W (next s.session) (other t.session)) :
    Related R W (session >>= next : SessionM ε α') (session >>= other : SessionM δ β') :=
  ⟨fun s t hstage => (h s t hstage).holds s t hstage⟩

theorem ite {p : Prop} [Decidable p] {first other : SessionM ε α} {second another : SessionM δ β}
    (h : Related R V first second) (hother : Related R V other another) :
    Related R V (if p then first else other) (if p then second else another) := by
  split
  · exact h
  · exact hother

theorem forM {action : α → SessionM ε Unit} {other : α → SessionM δ Unit}
    (h : ∀ item, Related R Eq (action item) (other item)) (items : List α) :
    Related R Eq (items.forM action) (items.forM other) := by
  induction items with
  | nil => exact pure rfl
  | cons item rest ih => exact bind_same (h item) fun _ => ih

end Related

end SessionM

open SessionM

/-! ## Relations that actions keep -/

/-- A relation of stages that have all in common that queries read, but for the engine, and that what is written
does not end. -/
structure Stage.ShowsAlike (R : Stage ε → Stage δ → Prop) : Prop where
  settings : ∀ s t, R s t → t.session.settings = s.session.settings
  width : ∀ s t, R s t → t.session.width = s.session.width
  output : ∀ s t, R s t → t.output = s.output
  written : ∀ s t output, R s t → R { s with output } { t with output }

/-- A relation of stages that also have in common what the other actions read, but for the password in force, and
that what is saved does not end. -/
structure Stage.ActsAlike (R : Stage ε → Stage δ → Prop) : Prop extends Stage.ShowsAlike R where
  persistent : ∀ s t, R s t → t.session.registry.persistent = s.session.registry.persistent
  disk : ∀ s t, R s t → t.disk = s.disk
  places : ∀ s t, R s t → t.places = s.places
  saved : ∀ s t disk, R s t → R { s with disk } { t with disk }

/-- A relation of stages that have all in common that actions read, but for the engine and the password in
force, and that what commands write does not end. -/
structure Stage.Corresponds (R : Stage ε → Stage δ → Prop) : Prop extends Stage.ActsAlike R where
  option : ∀ s t argument, R s t →
    R (s.withRegistry (s.session.registry.setToken .persistent argument))
      (t.withRegistry (t.session.registry.setToken .persistent argument))
  unset : ∀ s t key, R s t →
    R (s.withRegistry (s.session.registry.unset key .persistent))
      (t.withRegistry (t.session.registry.unset key .persistent))

/-- A relation of stages whose engines answer alike to settings that are handed to them, and that does not
end with it. -/
structure Stage.ConfiguresAlike [Engine ε] [Engine δ] (R : Stage ε → Stage δ → Prop) : Prop where
  answer : ∀ s t settings, R s t →
    (Engine.configure (t.session.forEngine settings) t.session.engine).1 =
      (Engine.configure (s.session.forEngine settings) s.session.engine).1
  keeps : ∀ s t settings, R s t →
    R (s.withEngine (Engine.configure (s.session.forEngine settings) s.session.engine).2)
      (t.withEngine (Engine.configure (t.session.forEngine settings) t.session.engine).2)

/-- A relation of stages whose engines answer alike to statements, and that does not end with it. -/
structure Stage.ExecutesAlike [Engine ε] [Engine δ] (R : Stage ε → Stage δ → Prop) : Prop where
  answer : ∀ s t sql, R s t →
    (Engine.execute sql t.session.engine).1 = (Engine.execute sql s.session.engine).1
  keeps : ∀ s t sql, R s t →
    R (s.withEngine (Engine.execute sql s.session.engine).2)
      (t.withEngine (Engine.execute sql t.session.engine).2)

/-- Queries that are run alike: they have the same statement, and their options and words say the same of
what is done with it. -/
structure Query.RunsAlike (q other : Query) : Prop where
  synthesize : other.synthesize = q.synthesize
  shows : other.shows = q.shows
  runs : other.runs = q.runs
  displayMode : other.options.displayMode? = q.options.displayMode?
  anchors : ∀ settings, other.anchorCandidates settings = q.anchorCandidates settings

theorem Query.RunsAlike.refl (q : Query) : q.RunsAlike q := ⟨rfl, rfl, rfl, rfl, fun _ => rfl⟩

/-- The same command asked for, or queries that are run alike. -/
inductive Request.RunsAlike : Request → Request → Prop where
  | command (command : Command) : RunsAlike (.command command) (.command command)
  | query {q other : Query} (h : q.RunsAlike other) : RunsAlike (.query q) (.query other)

theorem Request.RunsAlike.refl (request : Request) : request.RunsAlike request := by
  cases request with
  | command command => exact .command command
  | query q => exact .query (.refl q)

theorem Query.credential?_related (q : Query) : Option.Rel Eq q.credential? q.credential? := by
  cases q.credential? with
  | none => exact .none
  | some credential => exact .some rfl

section
variable {R : Stage ε → Stage δ → Prop}

namespace SessionM

section
variable (hR : Stage.ShowsAlike R)
include hR

theorem settings_bind {α β : Type} {V : α → β → Prop} {next : Settings → SessionM ε α}
    {other : Settings → SessionM δ β} (h : ∀ settings, Related R V (next settings) (other settings)) :
    Related R V (settings >>= next : SessionM ε α) (settings >>= other : SessionM δ β) := by
  constructor
  intro s t hstage
  change ResultsRelated R V (next s.session.settings s) (other t.session.settings t)
  rw [hR.settings s t hstage]
  exact (h s.session.settings).holds s t hstage

theorem writeAll_related (texts : List String) : Related R Eq (writeAll texts) (writeAll texts) := by
  constructor
  intro s t hstage
  rw [writeAll_eq, writeAll_eq, hR.output s t hstage]
  rcases s.output.writeAll texts with ⟨output, failure | _⟩
  · exact .error failure (hR.written s t output hstage)
  · exact .ok rfl (hR.written s t output hstage)

theorem writeLines_related (lines : List String) : Related R Eq (writeLines lines) (writeLines lines) :=
  writeAll_related hR _

theorem writeLine_related (line : String) : Related R Eq (writeLine line) (writeLine line) :=
  writeLines_related hR _

theorem present_related {q other : Query} (h : q.RunsAlike other) (kind : QueryKind) (result : ResultSet) :
    Related R Eq (present q kind result) (present other kind result) := by
  unfold present
  split
  · refine .session_bind fun s t hstage => ?_
    rw [hR.settings s t hstage, hR.width s t hstage, h.displayMode, h.anchors]
    exact .bind_same (writeLines_related hR _) fun _ => .pure rfl
  · exact .bind_same (writeLine_related hR _) fun _ => .pure rfl

end

variable [Engine ε] [Engine δ]

theorem execute_related (hexecute : Stage.ExecutesAlike R) (sql : String) :
    Related R Eq (execute sql) (execute sql) := by
  constructor
  intro s t hstage
  have hanswer := hexecute.answer s t sql hstage
  have hkeeps := hexecute.keeps s t sql hstage
  rw [execute_eq, execute_eq]
  rcases hfirst : Engine.execute sql s.session.engine with ⟨answer, engine⟩
  rcases hsecond : Engine.execute sql t.session.engine with ⟨other, engine'⟩
  rw [hfirst, hsecond] at hanswer hkeeps
  obtain rfl : other = answer := hanswer
  cases other with
  | ok result => exact .ok rfl hkeeps
  | error failure => exact .error failure hkeeps

theorem configure_related (hconfigure : Stage.ConfiguresAlike R) (settings : Settings) :
    Related R Eq (configure settings) (configure settings) := by
  constructor
  intro s t hstage
  have hanswer := hconfigure.answer s t settings hstage
  have hkeeps := hconfigure.keeps s t settings hstage
  rw [configure_eq, configure_eq]
  rcases hfirst : Engine.configure (s.session.forEngine settings) s.session.engine with ⟨answer, engine⟩
  rcases hsecond : Engine.configure (t.session.forEngine settings) t.session.engine with ⟨other, engine'⟩
  rw [hfirst, hsecond] at hanswer hkeeps
  obtain rfl : other = answer := hanswer
  cases other with
  | ok result => exact .ok rfl hkeeps
  | error failure => exact .error failure hkeeps

section
variable (hR : Stage.ShowsAlike R)
include hR

/-- Passwords that are given on both sides, or on neither, are put in force alike. -/
theorem applyCredential_related (hconfigure : Stage.ConfiguresAlike R) {P : Credential → Credential → Prop}
    (hgiven : ∀ s t credential other, P credential other → R s t →
      R { s with session := { s.session with credential := some credential } }
        { t with session := { t.session with credential := some other } })
    {q q' : Query} (h : Option.Rel P q.credential? q'.credential?) :
    Related R Eq (applyCredential q) (applyCredential q') := by
  unfold applyCredential
  generalize q.credential? = credential, q'.credential? = other at h
  cases h with
  | none => exact .pure rfl
  | some hcredentials =>
    exact .bind_same (.modify fun s t => hgiven s t _ _ hcredentials) fun _ =>
      settings_bind hR fun settings => configure_related hconfigure settings

theorem perform_related (hexecute : Stage.ExecutesAlike R) {q other : Query} (h : q.RunsAlike other)
    (sql : String) (kind : QueryKind) : Related R Eq (perform q sql kind) (perform other sql kind) := by
  unfold perform
  rw [h.runs]
  exact .ite (.bind_same (execute_related hexecute sql) fun result => present_related hR h kind result)
    (.pure rfl)

theorem runQuery_related (hexecute : Stage.ExecutesAlike R) {q other : Query} (h : q.RunsAlike other) :
    Related R Eq (runQuery q) (runQuery other) := by
  unfold runQuery
  rw [h.synthesize, h.shows]
  refine .bind_same (.ofExcept (.refl (fun _ => rfl) _)) fun (sql, kind) => ?_
  have hperform := perform_related hR hexecute h sql kind
  exact .ite (.bind_same (writeLine_related hR sql) fun _ => hperform) hperform

end

end SessionM

/-! ## Commands and lines -/

theorem Command.setOption_related (hR : Stage.Corresponds R) (argument : String) :
    Related R Eq (Command.setOption argument) (Command.setOption argument) := by
  rw [Command.setOption_eq_ite, Command.setOption_eq_ite]
  apply Related.ite
  · exact .throw _
  · exact .modify fun s t => hR.option s t argument

/-- The two stages change their settings by the same function of the same settings. -/
theorem Command.modifySettings_related (hR : Stage.ShowsAlike R) {command : Command}
    (hchange : ∀ s t settings, command.Changes s.session.settings settings →
      settings.database = s.session.settings.database → R s t →
      R (s.withSettings settings) (t.withSettings settings)) {update : Settings → Settings}
    (h : ∀ s, command.Changes s (update s) ∧ (update s).database = s.database) :
    Related R Eq (modifySettings update : SessionM ε Unit) (modifySettings update : SessionM δ Unit) := by
  refine .modify fun s t hstage => ?_
  change R (s.withSettings (update s.session.settings)) (t.withSettings (update t.session.settings))
  rw [hR.settings s t hstage]
  exact hchange s t _ (h _).1 (h _).2 hstage

variable [Engine ε] [Engine δ]

/-- A new database is accepted on both sides, and then both have it, or on neither. -/
theorem Command.setDatabase_related (hR : Stage.ShowsAlike R) (hconfigure : Stage.ConfiguresAlike R) {name : String}
    (hchange : ∀ s t settings, Changes s.session.settings (.setDatabase name) settings → R s t →
      R (s.withSettings settings) (t.withSettings settings)) :
    Related R Eq (run (.setDatabase name)) (run (.setDatabase name)) := by
  constructor
  intro s t hstage
  obtain ⟨next, hnext⟩ : ∃ next, { s.session.settings with database := some name } = next := ⟨_, rfl⟩
  have hsame : { t.session.settings with database := some name } = next := by
    rw [hR.settings s t hstage, hnext]
  have hanswer := hconfigure.answer s t next hstage
  have hkeeps := hconfigure.keeps s t next hstage
  rw [run_setDatabase name s hnext, run_setDatabase name t hsame]
  rcases hfirst : Engine.configure (s.session.forEngine next) s.session.engine with ⟨answer, engine⟩
  rcases hsecond : Engine.configure (t.session.forEngine next) t.session.engine with ⟨other, engine'⟩
  rw [hfirst, hsecond] at hanswer hkeeps
  obtain rfl : other = answer := hanswer
  cases other with
  | error failure => exact .error failure hkeeps
  | ok value =>
    refine .ok rfl (hchange _ _ next ?_ hkeeps)
    rw [← hnext]
    exact .setDatabase name

/-- The commands that set or unset options. -/
inductive Command.SetsOptions : Command → Prop where
  | setFormat (mode : DisplayMode) : SetsOptions (.setFormat mode)
  | setOptions (arguments : List String) : SetsOptions (.setOptions arguments)
  | unsetOption (key : String) : SetsOptions (.unsetOption key)

/-- Commands that set or unset options come to the same on stages that remain related when both have the
option. -/
theorem Command.options_related (hR : Stage.Corresponds R) {command : Command} (h : command.SetsOptions)
    (hchange : ∀ s t settings, command.Changes s.session.settings settings →
      settings.database = s.session.settings.database → R s t →
      R (s.withSettings settings) (t.withSettings settings)) :
    Related R Eq command.run command.run := by
  cases h with
  | setFormat mode =>
    refine .bind_same (modifySettings_related hR.toShowsAlike hchange fun _ => ⟨.setFormat mode, rfl⟩) fun _ =>
      .modify fun s t hstage => ?_
    have hoption := hR.option s t mode.key hstage
    rw [OptionRegistry.setToken, OptionRegistry.setToken, Command.parseOption_modeKey] at hoption
    exact hoption
  | setOptions arguments => exact .forM (setOption_related hR) arguments
  | unsetOption key => exact .modify fun s t => hR.unset s t key

/-- A command comes to the same on related stages. Setting the database is left open, as it is the one
command that uses the engine, and so is setting and unsetting options. -/
theorem Command.run_related (hR : Stage.ActsAlike R) {command : Command}
    (hchange : ∀ s t settings, command.Changes s.session.settings settings →
      settings.database = s.session.settings.database → R s t →
      R (s.withSettings settings) (t.withSettings settings))
    (hdatabase : ∀ name, command = .setDatabase name →
      Related R Eq (run (.setDatabase name) : SessionM ε Unit) (run (.setDatabase name)))
    (hoptions : command.SetsOptions → Related R Eq command.run command.run) :
    Related R Eq command.run command.run := by
  have hwrites := hR.toShowsAlike
  cases command with
  | help => exact settings_bind hwrites fun _ => writeLines_related hwrites _
  | showTable => exact settings_bind hwrites fun _ => writeLine_related hwrites _
  | setTable name => exact modifySettings_related hwrites hchange fun _ => ⟨.setTable name, rfl⟩
  | clearTable => exact modifySettings_related hwrites hchange fun _ => ⟨.clearTable, rfl⟩
  | setDatabase name => exact hdatabase name rfl
  | showFormat => exact settings_bind hwrites fun _ => writeLine_related hwrites _
  | setFormat mode => exact hoptions (.setFormat mode)
  | setOptions arguments => exact hoptions (.setOptions arguments)
  | showOptions =>
    refine .session_bind fun s t hstage => ?_
    rw [hR.persistent s t hstage]
    exact writeLines_related hwrites _
  | showOption key =>
    refine .session_bind fun s t hstage => ?_
    rw [hR.persistent s t hstage]
    cases s.session.registry.persistent.get? key with
    | some value => exact writeLine_related hwrites _
    | none => exact writeLine_related hwrites _
  | unsetOption key => exact hoptions (.unsetOption key)
  | define glossary name value =>
    exact modifySettings_related hwrites hchange fun _ =>
      ⟨.define glossary name value, by cases glossary <;> rfl⟩
  | lookUp glossary name =>
    refine settings_bind hwrites fun settings => ?_
    cases (settings.glossary glossary).get? name with
    | some value => exact writeLine_related hwrites _
    | none => exact .throw _
  | forget glossary name =>
    exact modifySettings_related hwrites hchange fun _ => ⟨.forget glossary name, by cases glossary <;> rfl⟩
  | save path =>
    refine .get_bind fun s t hstage => ?_
    dsimp only
    rw [hR.settings s t hstage, hR.disk s t hstage, hR.places s t hstage]
    refine .bind_same (.modify fun s t => hR.saved s t _) fun _ => ?_
    exact .bind_same (.ofExcept (.refl (fun _ => rfl) _)) fun _ => writeLine_related hwrites _

/-- What is asked for is done alike if it is the same, or if the queries are run alike. -/
theorem Request.run_related (hR : Stage.Corresponds R) (hexecute : Stage.ExecutesAlike R)
    (hchange : ∀ (command : Command) s t settings, command.Changes s.session.settings settings →
      settings.database = s.session.settings.database → R s t →
      R (s.withSettings settings) (t.withSettings settings))
    (hdatabase : ∀ name, Related R Eq (Command.run (.setDatabase name) : SessionM ε Unit)
      (Command.run (.setDatabase name)))
    {request other : Request} (h : request.RunsAlike other) : Related R Eq request.run other.run := by
  cases h with
  | command command =>
    refine .bind_same ?_ fun _ => .pure rfl
    exact command.run_related hR.toActsAlike (hchange command) (fun name _ => hdatabase name)
      fun h => command.options_related hR h (hchange command)
  | query h => exact runQuery_related hR.toShowsAlike hexecute h

/-- Lines that are sorted alike, with passwords that are put in force alike, come to the same if what they ask
for is done alike. -/
theorem dispatch_related {V : Query → Query → Prop} {tokens tokens' : List String}
    (hsort : Related R V (sort tokens) (sort tokens'))
    (hcredential : ∀ q q', V q q' → Related R Eq (applyCredential q) (applyCredential q'))
    (hrequest : ∀ q q', V q q' → SameOutcome Request.RunsAlike (q.request tokens) (q'.request tokens'))
    (hrun : ∀ request other, Request.RunsAlike request other → Related R Eq request.run other.run) :
    Related R Eq (dispatch tokens) (dispatch tokens') := by
  refine .bind hsort fun q q' halike => .bind_same (hcredential q q' halike) fun _ => ?_
  refine .bind (.ofExcept (hrequest q q' halike)) fun request request' hrequests => ?_
  have hlast := hrun request request' hrequests
  cases hrequests with
  | command command => exact hlast
  | query h => exact hlast

end

/-! ## Lines one after the other -/

/-- What some lines come to, each on the stage that the lines before it left. -/
def transcript [Engine ε] : List (List String) → Stage ε → List (EStateM.Result Failure (Stage ε) Outcome)
  | [], _ => []
  | tokens :: rest, stage => dispatch tokens stage :: transcript rest (after (dispatch tokens) stage)

/-- Lines that come to the same on related stages do so one after the other. -/
theorem transcript_related [Engine ε] [Engine δ] {R : Stage ε → Stage δ → Prop}
    {line other : List String → List String}
    (h : ∀ tokens, Related R Eq (dispatch (line tokens)) (dispatch (other tokens))) (lines : List (List String))
    {s : Stage ε} {t : Stage δ} (hstage : R s t) :
    List.Forall₂ (ResultsRelated R Eq) (transcript (lines.map line) s) (transcript (lines.map other) t) ∧
      R (afterLines (lines.map line) s) (afterLines (lines.map other) t) := by
  induction lines generalizing s t with
  | nil => exact ⟨.nil, hstage⟩
  | cons tokens rest ih =>
    have hresults := (h tokens).holds s t hstage
    obtain ⟨hrest, hlast⟩ := ih hresults.after
    exact ⟨.cons hresults hrest, hlast⟩

end TerseQuery
