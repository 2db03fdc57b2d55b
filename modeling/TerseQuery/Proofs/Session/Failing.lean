import TerseQuery.Engine.Sqlite
import TerseQuery.Proofs.Session.Invariants

/-!
# Lines that fail

* `SessionM.KeepsOnFailure`: an action keeps a property of the stage if it fails, whatever it does if not;
* `Command.run_keepsOnFailure`: a command changes the settings only where it cannot fail any more, or takes the
  change back;
* `dispatch_failure_settings`: a line that fails leaves the settings as they were.
-/

namespace TerseQuery

/-! ## Actions that keep a property if they fail -/

namespace SessionM

variable {ε α β : Type} {I : Stage ε → Prop}

/-- A property of the stage that holds after an action that fails if it held before. -/
structure KeepsOnFailure (I : Stage ε → Prop) (action : SessionM ε α) : Prop where
  holds : ∀ stage failure last, I stage → action stage = .error failure last → I last

/-- An action that succeeds on every stage. -/
def Succeeds (action : SessionM ε α) : Prop :=
  ∀ stage, ∃ value last, action stage = .ok value last

theorem Keeps.onFailure {action : SessionM ε α} (h : Keeps I action) : KeepsOnFailure I action := by
  constructor
  intro stage failure last hstage hresult
  have hlast := h.holds stage hstage
  rw [after, hresult] at hlast
  exact hlast

namespace KeepsOnFailure

theorem of_succeeds {action : SessionM ε α} (h : Succeeds action) : KeepsOnFailure I action := by
  constructor
  intro stage failure last _ hresult
  obtain ⟨value, other, hvalue⟩ := h stage
  rw [hvalue] at hresult
  cases hresult

/-- What comes before the last action has to keep the property in any case. -/
theorem bind {action : SessionM ε α} {next : α → SessionM ε β} (h : Keeps I action)
    (hnext : ∀ value, KeepsOnFailure I (next value)) : KeepsOnFailure I (action >>= next) := by
  constructor
  intro stage failure last hstage hresult
  have hfirst := h.holds stage hstage
  rw [after] at hfirst
  rw [bind_eq] at hresult
  cases hvalue : action stage with
  | ok value middle =>
    rw [hvalue] at hfirst hresult
    exact (hnext value).holds middle failure last hfirst hresult
  | error reason middle =>
    rw [hvalue] at hfirst hresult
    cases hresult
    exact hfirst

/-- An action may change anything if nothing after it fails. -/
theorem bind_succeeds {action : SessionM ε α} {next : α → SessionM ε β} (h : KeepsOnFailure I action)
    (hnext : ∀ value, Succeeds (next value)) : KeepsOnFailure I (action >>= next) := by
  constructor
  intro stage failure last hstage hresult
  rw [bind_eq] at hresult
  cases hvalue : action stage with
  | ok value middle =>
    obtain ⟨result, other, hother⟩ := hnext value middle
    rw [hvalue] at hresult
    dsimp only at hresult
    rw [hother] at hresult
    cases hresult
  | error reason middle =>
    rw [hvalue] at hresult
    cases hresult
    exact h.holds stage failure last hstage hvalue

end KeepsOnFailure

end SessionM

open SessionM

/-! ## Commands and lines that fail -/

/-- Whether these are the settings of a stage. -/
def Stage.Holds {ε : Type} (settings : Settings) (stage : Stage ε) : Prop :=
  stage.session.settings = settings

section
variable {ε : Type} [Engine ε] {settings : Settings}

theorem Effect.holds {stage next : Stage ε} (h : Effect stage next) (hstage : stage.Holds settings) :
    next.Holds settings :=
  h.settings_eq.trans hstage

/-- A command that fails leaves the settings as they were. The new database is the only change that stands
before a step that may fail, and it is taken back. -/
theorem Command.run_keepsOnFailure (command : Command) :
    KeepsOnFailure (ε := ε) (Stage.Holds settings) command.run := by
  have heffect : ∀ stage next : Stage ε, Effect stage next → stage.Holds settings → next.Holds settings :=
    fun _ _ => Effect.holds
  cases command with
  | setDatabase name =>
    constructor
    intro stage failure last hstage hresult
    rw [run_setDatabase name stage rfl] at hresult
    split at hresult
    · cases hresult
    · cases hresult
      exact hstage
  | setTable | clearTable | setFormat | define | forget => exact .of_succeeds fun _ => ⟨_, _, rfl⟩
  | _ =>
    refine (run_keeps heffect fun _ _ hchanges => ?_).onFailure
    cases hchanges

theorem dispatch_keepsOnFailure (tokens : List String) :
    KeepsOnFailure (Stage.Holds settings) (dispatch (ε := ε) tokens) := by
  have heffect : ∀ before after : Stage ε, Effect before after → before.Holds settings → after.Holds settings :=
    fun _ _ => Effect.holds
  refine .bind (sort_keeps heffect tokens) fun q => ?_
  refine .bind (applyCredential_keeps heffect q) fun _ => ?_
  refine .bind (.ofExcept _) fun request => ?_
  cases request with
  | command command => exact .bind_succeeds command.run_keepsOnFailure fun _ _ => ⟨_, _, rfl⟩
  | query q =>
    refine (runQuery_keeps (fun stage output => ?_) (fun _ _ hstage => hstage) q).onFailure
    exact heffect stage _ (.output output)

/-- A line that fails leaves the settings as they were, whatever it does and whatever fails. -/
theorem dispatch_failure_settings {tokens : List String} {stage last : Stage ε} {failure : Failure}
    (h : dispatch tokens stage = .error failure last) : last.session.settings = stage.session.settings :=
  (dispatch_keepsOnFailure tokens).holds stage failure last rfl h

end

/-- A stage whose settings name a database that is not for SQLite. -/
def Stage.foreign : Stage SqliteEngine :=
  ⟨.start { Settings.initial with connection := ⟨.fullString "postgres://host", none, none, none⟩ }
    ⟨none, fun _ => none⟩ none, .workingIn [], .ofDirectories [] [], .unbounded⟩

/-- The engine refuses another database, and the active one stays. -/
theorem dispatch_failure_settings_foreign : ∃ last,
    dispatch ["\\db", "x"] Stage.foreign = .error (.config .notSqlite) last ∧
      last.session.settings = Stage.foreign.session.settings := by
  obtain ⟨last, hfails⟩ : ∃ last, dispatch ["\\db", "x"] Stage.foreign = .error (.config .notSqlite) last :=
    exists_of_failure? (by decide +kernel)
  exact ⟨last, hfails, dispatch_failure_settings hfails⟩

end TerseQuery
