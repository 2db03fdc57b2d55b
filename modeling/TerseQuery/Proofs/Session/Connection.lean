import TerseQuery.Proofs.Session.Credentials

/-!
# A session and its engine

The settings of a session and its engine agree on the connection, whatever lines are run: an engine is handed
the settings whenever the database or the password changes, and a database that it refuses is not kept.

* `SqliteEngine.Agrees`: the engine opens the file that the settings name;
* `Stage.LastGiven`: what an engine that accepts all settings was given last are those of the session, with the
  password in force;
* `credential_afterLines`: the password in force is the last one that a line brought;
* `engine_agrees_afterLines`: after any lines the engine is what the settings and the passwords of the lines say.
-/

namespace TerseQuery

open SessionM

/-! ## The file that is opened -/

namespace SqliteEngine

/-- Which file settings name does not depend on the password. -/
theorem pathOf_forEngine {ε : Type} (s : Session ε) (settings : Settings) :
    pathOf (s.forEngine settings) = pathOf settings := by
  rw [Session.forEngine]
  cases s.credential <;> rfl

theorem configure_eq (settings : Settings) (e : SqliteEngine) :
    Engine.configure settings e =
      match pathOf settings with
      | .ok path => (.ok (), { e with path })
      | .error failure => (.error failure, e) := by
  cases hpath : pathOf settings with
  | ok path =>
    have hconfigured : e.configured settings = .ok { e with path } := by rw [configured, hpath]; rfl
    simp [Engine.configure, hconfigured]
  | error failure =>
    have hrefused : e.configured settings = .error failure := by rw [configured, hpath]; rfl
    simp [Engine.configure, hrefused]

theorem ofSettings_eq_ok {settings : Settings} {databases : String → Option Database} {e : SqliteEngine} :
    ofSettings settings databases = .ok e ↔ pathOf settings = .ok e.path ∧ e.databases = databases := by
  rw [ofSettings, configured]
  cases pathOf settings with
  | error failure => simp [Except.map]
  | ok path =>
    constructor
    · intro h
      cases h
      exact ⟨rfl, rfl⟩
    · rintro ⟨hpath, rfl⟩
      cases hpath
      rfl

/-- Whether the engine of a session opens the file that the settings name, among some databases. -/
def Agrees (databases : String → Option Database) (stage : Stage SqliteEngine) : Prop :=
  ofSettings stage.session.settings databases = .ok stage.session.engine

variable {databases : String → Option Database}

theorem agrees_iff {stage : Stage SqliteEngine} :
    Agrees databases stage ↔
      pathOf stage.session.settings = .ok stage.session.engine.path ∧ stage.session.engine.databases = databases :=
  ofSettings_eq_ok

theorem Agrees.of_sameConnection {stage other : Stage SqliteEngine} (h : stage.SameConnection other)
    (hstage : Agrees databases stage) : Agrees databases other := by
  have hpath : pathOf other.session.settings = pathOf stage.session.settings := by
    rw [pathOf, pathOf, h.database, h.connection]
  rw [agrees_iff] at hstage ⊢
  rw [hpath, h.engine]
  exact hstage

/-- The settings with a password name the file that is open. -/
theorem applyCredential_keeps_agrees (q : Query) : Keeps (Agrees databases) (applyCredential q) := by
  constructor
  intro stage hstage
  cases hcredential : q.credential? with
  | none =>
    unfold applyCredential
    rw [hcredential]
    exact hstage
  | some credential =>
    have hpath := (agrees_iff.mp hstage).1
    have hgiven : pathOf { stage.session.settings with
        connection := stage.session.settings.connection.applyCredential credential } =
          .ok stage.session.engine.path := hpath
    rw [after, applyCredential_eq hcredential, configure_eq, hgiven]
    exact hstage

/-- A database that the engine takes up is kept together with its file, one that it refuses is not. -/
theorem setDatabase_keeps_agrees (name : String) :
    Keeps (Agrees databases) (Command.run (.setDatabase name)) := by
  constructor
  intro stage hstage
  obtain ⟨next, hnext⟩ : ∃ next, { stage.session.settings with database := some name } = next := ⟨_, rfl⟩
  rw [after, Command.run_setDatabase name stage hnext, configure_eq, pathOf_forEngine]
  cases hpath : pathOf next with
  | error failure => exact hstage
  | ok path => exact agrees_iff.mpr ⟨hpath, (agrees_iff.mp hstage).2⟩

theorem dispatch_keeps_agrees (tokens : List String) : Keeps (Agrees databases) (dispatch tokens) :=
  dispatch_keeps_connection (fun _ _ h => Agrees.of_sameConnection h) applyCredential_keeps_agrees
    setDatabase_keeps_agrees (fun _ _ h => h) tokens

end SqliteEngine

/-! ## What the engine was given last -/

/-- The connection with the password in force, if there is one. -/
def Connection.withCredential (c : Connection) (credential : Option Credential) : Connection :=
  credential.elim c c.applyCredential

theorem Connection.password_withCredential (c : Connection) (credential : Option Credential) :
    (c.withCredential credential).password = (credential.map Credential.password).or c.password := by
  cases credential <;> rfl

theorem Session.forEngine_eq {ε : Type} (s : Session ε) (settings : Settings) :
    s.forEngine settings = { settings with connection := settings.connection.withCredential s.credential } := by
  rw [forEngine]
  cases s.credential <;> rfl

/-- Whether the database and the connection that an engine was given last, if it was given any, are those of the
session, with the password in force. -/
def Stage.LastGiven {ε : Type} (stage : Stage (Recorded ε)) : Prop :=
  ∀ given ∈ stage.session.engine.configurations.getLast?,
    given.1.database = stage.session.settings.database ∧
      given.1.connection = stage.session.settings.connection.withCredential stage.session.credential

section
variable {ε : Type}

theorem Stage.LastGiven.of_sameConnection {stage other : Stage (Recorded ε)} (h : stage.SameConnection other)
    (hstage : stage.LastGiven) : other.LastGiven := by
  unfold LastGiven
  rw [h.database, h.connection, h.credential, h.engine]
  exact hstage

variable [Engine ε]

/-- The settings that are handed to an engine are the last that it was given. -/
theorem Stage.lastGiven_of_configure {stage : Stage (Recorded ε)} (before : Recorded ε)
    (h : stage.session.engine = (Engine.configure (stage.session.forEngine stage.session.settings) before).2) :
    stage.LastGiven := by
  have hconfigurations : stage.session.engine.configurations = before.configurations ++
      [(stage.session.forEngine stage.session.settings,
        (Engine.configure (stage.session.forEngine stage.session.settings) before.engine).2)] := by
    rw [h]
    rfl
  unfold LastGiven
  rw [hconfigurations, List.getLast?_concat, Session.forEngine_eq]
  rintro given hgiven
  cases hgiven
  exact ⟨rfl, rfl⟩

/-- A password is in force when the engine is given it, also if the engine refuses it. -/
theorem applyCredential_keeps_lastGiven (q : Query) : Keeps (Stage.LastGiven (ε := ε)) (applyCredential q) := by
  constructor
  intro stage hstage
  cases hcredential : q.credential? with
  | none =>
    unfold applyCredential
    rw [hcredential]
    exact hstage
  | some credential =>
    obtain ⟨given, hgiven⟩ : ∃ given, { stage.session.settings with
      connection := stage.session.settings.connection.applyCredential credential } = given := ⟨_, rfl⟩
    rw [after, applyCredential_eq hcredential, hgiven]
    rcases hresult : Engine.configure given stage.session.engine with ⟨_ | _, engine⟩ <;>
    · rw [← hgiven] at hresult
      exact Stage.lastGiven_of_configure stage.session.engine (congrArg Prod.snd hresult).symm

variable (haccepts : ∀ settings (e : ε), (Engine.configure settings e).1 = .ok ())
include haccepts

theorem setDatabase_keeps_lastGiven (name : String) :
    Keeps (Stage.LastGiven (ε := ε)) (Command.run (.setDatabase name)) := by
  constructor
  intro stage _
  obtain ⟨next, hnext⟩ : ∃ next, { stage.session.settings with database := some name } = next := ⟨_, rfl⟩
  have haccepted : (Engine.configure (stage.session.forEngine next) stage.session.engine).1 = .ok () :=
    haccepts (stage.session.forEngine next) stage.session.engine.engine
  rw [after, Command.run_setDatabase name stage hnext]
  rcases hresult : Engine.configure (stage.session.forEngine next) stage.session.engine with ⟨_ | _, engine⟩
  · rw [hresult] at haccepted
    cases haccepted
  · exact Stage.lastGiven_of_configure stage.session.engine (congrArg Prod.snd hresult).symm

theorem dispatch_keeps_lastGiven (tokens : List String) :
    Keeps (Stage.LastGiven (ε := ε)) (dispatch tokens) :=
  dispatch_keeps_connection (fun _ _ h => Stage.LastGiven.of_sameConnection h) applyCredential_keeps_lastGiven
    (setDatabase_keeps_lastGiven haccepts) (fun _ _ h => h) tokens

end

/-! ## Lines one after the other -/

/-- The passwords that lines bring, the first one first. -/
def givenPasswords {ε : Type} [Engine ε] : List (List String) → Stage ε → List String
  | [], _ => []
  | tokens :: rest, stage =>
    (stage.session.broughtPassword? tokens).toList ++ givenPasswords rest (after (dispatch tokens) stage)

/-- The password in force is the last one that a line brought. -/
theorem credential_afterLines {ε : Type} [Engine ε] (lines : List (List String)) (stage : Stage ε) :
    (afterLines lines stage).session.credential.map Credential.password =
      (givenPasswords lines stage).getLast?.or (stage.session.credential.map Credential.password) := by
  induction lines generalizing stage with
  | nil => rfl
  | cons tokens rest ih =>
    change (afterLines rest (after (dispatch tokens) stage)).session.credential.map Credential.password = _
    rw [ih, credential_after_dispatch, givenPasswords, List.getLast?_append, Session.broughtPassword?_eq,
      Option.or_assoc]
    cases (stage.session.sort tokens).1.credential? <;> rfl

/-- After any lines, settings and engine agree on the connection. The engine for SQLite opens the file that the
settings name, as an engine made for them does. An engine that accepts all settings was given last, if it was
given any, the active database, and the last password that a line brought, or else the one in the settings. -/
theorem engine_agrees_afterLines :
    (∀ (databases : String → Option Database) (lines : List (List String)) (stage : Stage SqliteEngine),
      SqliteEngine.ofSettings stage.session.settings databases = .ok stage.session.engine →
        ∃ e, SqliteEngine.ofSettings (afterLines lines stage).session.settings databases = .ok e ∧
          e.path = (afterLines lines stage).session.engine.path) ∧
    ∀ (ε : Type) [Engine ε] (lines : List (List String)) (stage : Stage ε),
      (∀ settings (e : ε), (Engine.configure settings e).1 = .ok ()) →
        ∀ given ∈ (afterLines lines stage.recorded).session.engine.configurations.getLast?,
          given.1.database = (afterLines lines stage.recorded).session.settings.database ∧
            given.1.connection.password =
              ((givenPasswords lines stage.recorded).getLast?.or
                (stage.session.credential.map Credential.password)).or
                (afterLines lines stage.recorded).session.settings.connection.password := by
  constructor
  · intro databases lines stage hbegins
    exact ⟨_, afterLines_keeps (I := SqliteEngine.Agrees databases) SqliteEngine.dispatch_keeps_agrees lines hbegins,
      rfl⟩
  · intro ε _ lines stage haccepts given hgiven
    have hbegins : stage.recorded.LastGiven := by
      intro given hgiven
      cases hgiven
    have hlast := afterLines_keeps (dispatch_keeps_lastGiven haccepts) lines hbegins
    obtain ⟨hdatabase, hconnection⟩ := hlast given hgiven
    refine ⟨hdatabase, ?_⟩
    rw [hconnection, Connection.password_withCredential, credential_afterLines]
    rfl

/-- A session with an active database and a password in its settings. -/
def Session.connected {ε : Type} (engine : ε) : Session ε :=
  .start { Settings.initial with database := some "a", connection := ⟨default, none, some "old", none⟩ } engine none

def Stage.sqlite : Stage SqliteEngine :=
  (Session.connected ⟨some "a", fun _ => none⟩).alone

def Stage.scripted : Stage Scripted :=
  (Session.connected ⟨.ok (.affected 0)⟩).alone

/-- Lines that change the database and the password, one of which fails. An option without text, or with an empty
one, brings no password. -/
def connectionLines : List (List String) :=
  [["\\db", "b", "-pw=new"], ["\\db"], ["users", "-pw=-"], ["\\db", "c", "-pw="], ["users", "-pw"]]

/-- After the first line, after all lines, and after a line that brings no password. -/
theorem engine_agrees_afterLines_switched :
    SqliteEngine.ofSettings Stage.sqlite.session.settings (fun _ => none) = .ok Stage.sqlite.session.engine ∧
      (∃ e, SqliteEngine.ofSettings (afterLines connectionLines Stage.sqlite).session.settings (fun _ => none) =
          .ok e ∧
        e.path = (afterLines connectionLines Stage.sqlite).session.engine.path ∧ e.path = some "c") ∧
      (∀ settings (e : Scripted), (Engine.configure settings e).1 = .ok ()) ∧
      givenPasswords connectionLines Stage.scripted.recorded = ["new", ""] ∧
      (∃ given ∈ (afterLines (connectionLines.take 1) Stage.scripted.recorded).session.engine.configurations.getLast?,
        given.1.database = some "b" ∧ given.1.connection.password = some "new") ∧
      (∃ given ∈ (afterLines connectionLines Stage.scripted.recorded).session.engine.configurations.getLast?,
        given.1.database = some "c" ∧ given.1.connection.password = some "") ∧
      ∃ given ∈ (afterLines [["\\db", "d", "-pw="]] Stage.scripted.recorded).session.engine.configurations.getLast?,
        given.1.database = some "d" ∧ given.1.connection.password = some "old" := by
  have hbegins : SqliteEngine.ofSettings Stage.sqlite.session.settings (fun _ => none) =
      .ok Stage.sqlite.session.engine := rfl
  have haccepts : ∀ settings (e : Scripted), (Engine.configure settings e).1 = .ok () := fun _ _ => rfl
  have hgiven : ∀ (lines : List (List String)) (database password : Option String),
      (afterLines lines Stage.scripted.recorded).session.engine.configurations.getLast?.isSome = true ∧
        (afterLines lines Stage.scripted.recorded).session.settings.database = database ∧
        ((givenPasswords lines Stage.scripted.recorded).getLast?.or
          (Stage.scripted.session.credential.map Credential.password)).or
          (afterLines lines Stage.scripted.recorded).session.settings.connection.password = password →
      ∃ given ∈ (afterLines lines Stage.scripted.recorded).session.engine.configurations.getLast?,
        given.1.database = database ∧ given.1.connection.password = password := by
    rintro lines database password ⟨hsome, hdatabase, hpassword⟩
    obtain ⟨given, hlast⟩ := Option.isSome_iff_exists.mp hsome
    have h := engine_agrees_afterLines.2 Scripted lines Stage.scripted haccepts given hlast
    exact ⟨given, hlast, h.1.trans hdatabase, h.2.trans hpassword⟩
  obtain ⟨e, he, hpath⟩ := engine_agrees_afterLines.1 _ connectionLines Stage.sqlite hbegins
  have hfile : (afterLines connectionLines Stage.sqlite).session.engine.path = some "c" := by decide +kernel
  exact ⟨hbegins, ⟨e, he, hpath, hpath.trans hfile⟩, haccepts, by decide +kernel, hgiven _ _ _ (by decide +kernel),
    hgiven _ _ _ (by decide +kernel), hgiven _ _ _ (by decide +kernel)⟩

end TerseQuery
