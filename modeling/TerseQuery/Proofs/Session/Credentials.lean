import TerseQuery.Proofs.Session.Failing
import TerseQuery.Proofs.Session.Recording

/-!
# Passwords in force

The password of a line is in force from then on, until another line brings one. It stays in force when the
engine refuses it and when the line fails later, and the engine is given it with all settings after that.

* `credential_after_dispatch`: the password in force after a line;
* `given_after_failed_line`: what the engine is given after a line that failed;
* `failed_line_changes_given`: it need not be what the engine was given before.
-/

namespace TerseQuery

open SessionM

/-- Whether this is the password in force on a stage. -/
def Stage.HoldsCredential {ε : Type} (credential : Option Credential) (stage : Stage ε) : Prop :=
  stage.session.credential = credential

section
variable {ε : Type} [Engine ε]

theorem Command.setDatabase_keeps_credential (credential : Option Credential) (name : String) :
    Keeps (ε := ε) (Stage.HoldsCredential credential) (run (.setDatabase name)) := by
  constructor
  intro stage hstage
  rw [after, run_setDatabase name stage rfl]
  rcases Engine.configure _ stage.session.engine with ⟨_ | _, engine⟩
  · exact hstage
  · exact hstage

/-- Nothing that is asked for changes the password in force. -/
theorem Request.run_keeps_credential (credential : Option Credential) (request : Request) :
    Keeps (ε := ε) (Stage.HoldsCredential credential) request.run := by
  have hsame : ∀ stage other : Stage ε, stage.SameConnection other → stage.HoldsCredential credential →
      other.HoldsCredential credential := fun _ _ h hstage => h.credential.trans hstage
  exact Request.run_keeps_connection hsame (Command.setDatabase_keeps_credential credential) (fun _ _ h => h) request

/-- The password in force after a line is that of the line, if it has one, whether the line fails or not. -/
theorem credential_after_dispatch (tokens : List String) (stage : Stage ε) :
    (after (dispatch tokens) stage).session.credential =
      (stage.session.sort tokens).1.credential?.or stage.session.credential := by
  have hprepared : (stage.prepared tokens).HoldsCredential
      ((stage.session.sort tokens).1.credential?.or stage.session.credential) := by
    obtain ⟨engine, hprepared⟩ := stage.exists_prepared_eq tokens
    rw [Stage.HoldsCredential, hprepared]
  by_cases haccepted : Accepted (stage.session.sort tokens).1 stage
  · rw [after, dispatch_of_accepted haccepted]
    cases (stage.session.sort tokens).1.request tokens with
    | error failure => exact hprepared
    | ok request => exact (request.run_keeps_credential _).holds _ hprepared
  · obtain ⟨failure, hdispatch⟩ := dispatch_of_not_accepted haccepted
    rw [after, hdispatch]
    exact hprepared

/-- The session with the password of a line, if it has one, in force. -/
def Session.withPasswordOf {ε : Type} (s : Session ε) (tokens : List String) : Session ε :=
  { s with credential := (s.sort tokens).1.credential?.or s.credential }

/-- A line that fails leaves the settings as they were and its password in force. So what the engine is given
next differs only for a line that has a password. -/
theorem given_after_failed_line {tokens : List String} {stage last : Stage ε} {failure : Failure}
    (h : dispatch tokens stage = .error failure last) :
    last.session.settings = stage.session.settings ∧
      last.session.credential = (stage.session.sort tokens).1.credential?.or stage.session.credential ∧
      last.session.forEngine last.session.settings =
        (stage.session.withPasswordOf tokens).forEngine stage.session.settings := by
  have hsettings : last.session.settings = stage.session.settings :=
    (dispatch_keepsOnFailure tokens).holds stage failure last rfl h
  have hcredential := credential_after_dispatch tokens stage
  rw [after, h] at hcredential
  dsimp only at hcredential
  refine ⟨hsettings, hcredential, ?_⟩
  rw [Session.forEngine, Session.forEngine, Session.withPasswordOf, hcredential, hsettings]

end

/-! ## Lines that the engine refuses -/

/-- A stage whose settings name no database yet, and none that the engine reads. -/
def Stage.unreadable : Stage SqliteEngine :=
  Session.alone (.start
    { Settings.initial with
      connection := ⟨.components ⟨"postgres", none, none, none, none⟩, none, none, none⟩ }
    ⟨none, fun _ => none⟩ none)

/-- The password in the settings that the engine was given last. -/
def Stage.lastPassword {ε : Type} (stage : Stage (Recorded ε)) : Option (Option String) :=
  stage.session.engine.configurations.getLast?.map fun given => given.1.connection.password

/-- A line fails because the engine refuses the database that it names, or its password, and the engine is
given that password again with the next line. -/
theorem failed_line_changes_given :
    ((∃ last, dispatch ["\\db", "x", "-pw=s"] Stage.unreadable = .error (.config .notSqlite) last) ∧
      (afterLines [["\\db", "x", "-pw=s"], ["\\db", "y"]] Stage.unreadable.recorded).lastPassword = some (some "s") ∧
      (afterLines [["\\db", "y"]] Stage.unreadable.recorded).lastPassword = some none) ∧
    (∃ last, dispatch ["users", "-pw=s"] Stage.foreign = .error (.config .notSqlite) last) ∧
      (afterLines [["users", "-pw=s"], ["\\db", "y"]] Stage.foreign.recorded).lastPassword = some (some "s") ∧
      (afterLines [["\\db", "y"]] Stage.foreign.recorded).lastPassword = some none := by
  refine ⟨⟨?_, ?_, ?_⟩, ?_, ?_, ?_⟩
  · exact exists_of_failure? (by decide +kernel)
  · decide +kernel
  · decide +kernel
  · exact exists_of_failure? (by decide +kernel)
  · decide +kernel
  · decide +kernel

/-- The password of the refused line is in force, and the settings are what they were. -/
theorem given_after_failed_line_refused : ∃ last,
    dispatch ["\\db", "x", "-pw=s"] Stage.unreadable = .error (.config .notSqlite) last ∧
      last.session.settings = Stage.unreadable.session.settings ∧
      last.session.credential =
        (Stage.unreadable.session.sort ["\\db", "x", "-pw=s"]).1.credential?.or
          Stage.unreadable.session.credential ∧
      last.session.forEngine last.session.settings =
        (Stage.unreadable.session.withPasswordOf ["\\db", "x", "-pw=s"]).forEngine
          Stage.unreadable.session.settings := by
  obtain ⟨last, hfails⟩ : ∃ last,
      dispatch ["\\db", "x", "-pw=s"] Stage.unreadable = .error (.config .notSqlite) last :=
    exists_of_failure? (by decide +kernel)
  exact ⟨last, hfails, given_after_failed_line hfails⟩

end TerseQuery
