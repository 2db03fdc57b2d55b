import TerseQuery.Proofs.Engine.Uses
import TerseQuery.Proofs.Session.Connection
import TerseQuery.Proofs.Session.Execution

/-!
# Query lines erased

A query leaves nothing behind that another line could see, if the engine answers by nothing but the settings that
it was handed. So it can be left out of a session, whether it succeeds or fails.

* `Line.report`: what can be seen of a line;
* `Stage.SameSession`: stages that lines cannot tell apart, however often their engines ran statements;
* `Line.report_eq`: a line has one report on both, and leaves such stages again;
* `Line.sameSession_of_query`: a query line without a password leaves such a stage;
* `query_lines_erasable`: the other lines of a session have the same reports without it.
-/

namespace TerseQuery

open SessionM

/-! ## Lines and what is seen of them -/

/-- A line with the output that it is given. -/
structure Line where
  tokens : List String
  output : Sink

/-- What can be seen of a line: what it comes to, what its output took, and the statements that were executed
for it. -/
structure Report where
  result : Except Failure Outcome
  written : List String
  executed : List String

section
variable {ε : Type}

/-- The stage that a line is run on: with the line's output, and an engine that remembers its uses from then on. -/
def Line.on (line : Line) (stage : Stage ε) : Stage (Recorded ε) :=
  { stage.recorded with output := line.output }

variable [Engine ε]

/-- The stage that a line leaves. -/
def Line.next (line : Line) (stage : Stage ε) : Stage ε :=
  (after (dispatch line.tokens) (line.on stage)).unrecorded

/-- What is seen of a line on a stage. -/
def Line.report (line : Line) (stage : Stage ε) : Report where
  result := result (dispatch line.tokens) (line.on stage)
  written := (after (dispatch line.tokens) (line.on stage)).output.writes
  executed := (after (dispatch line.tokens) (line.on stage)).statements

/-- The engine need not remember anything for a line to come to what it comes to. -/
theorem Line.next_eq (line : Line) (stage : Stage ε) :
    line.next stage = after (dispatch line.tokens) { stage with output := line.output } := by
  have hsame : dispatch line.tokens { stage with output := line.output } = _ :=
    (dispatch_same line.tokens).eq (line.on stage)
  rw [Line.next, after, after, hsame]
  cases dispatch line.tokens (line.on stage) <;> rfl

/-- The stage that lines leave, run one after the other. -/
def afterRun (lines : List Line) (stage : Stage ε) : Stage ε :=
  lines.foldl (fun stage line => line.next stage) stage

theorem afterRun_append (lines rest : List Line) (stage : Stage ε) :
    afterRun (lines ++ rest) stage = afterRun rest (afterRun lines stage) :=
  List.foldl_append

/-- The reports of lines that are run one after the other. -/
def reports : List Line → Stage ε → List Report
  | [], _ => []
  | line :: rest, stage => line.report stage :: reports rest (line.next stage)

theorem reports_append (lines rest : List Line) (stage : Stage ε) :
    reports (lines ++ rest) stage = reports lines stage ++ reports rest (afterRun lines stage) := by
  induction lines generalizing stage with
  | nil => rfl
  | cons line lines ih =>
    rw [List.cons_append, reports, ih, reports, List.cons_append]
    rfl

theorem length_reports (lines : List Line) (stage : Stage ε) : (reports lines stage).length = lines.length := by
  induction lines generalizing stage with
  | nil => rfl
  | cons line rest ih => rw [reports, List.length_cons, ih, List.length_cons]

end

/-! ## Stages that lines cannot tell apart -/

/-- Stages that are the same in all that outlasts a line. Of their engines it is only known that they answer
alike. -/
structure Stage.SameSession {ε : Type} [Engine ε] (s t : Stage ε) : Prop where
  settings : t.session.settings = s.session.settings
  persistent : t.session.registry.persistent = s.session.registry.persistent
  seeded : t.session.registry.seeded = s.session.registry.seeded
  credential : t.session.credential = s.session.credential
  width : t.session.width = s.session.width
  disk : t.disk = s.disk
  places : t.places = s.places
  engine : Engine.SameBySettings s.session.engine t.session.engine

theorem Stage.SameSession.refl {ε : Type} [Engine ε] {stage : Stage ε}
    (hengine : Engine.SameBySettings stage.session.engine stage.session.engine) : stage.SameSession stage :=
  ⟨rfl, rfl, rfl, rfl, rfl, rfl, rfl, hengine⟩

/-- Stages in the middle of a line that were the same at its beginning: what it did so far is the same too. -/
structure Stage.SameSoFar {ε : Type} [Engine ε] (s t : Stage (Recorded ε)) : Prop where
  session : s.unrecorded.SameSession t.unrecorded
  output : t.output = s.output
  statements : t.statements = s.statements

section
variable {ε : Type} [Engine ε]

namespace OptionRegistry

variable {r other : OptionRegistry}

theorem clearTransient_eq (hpersistent : other.persistent = r.persistent) (hseeded : other.seeded = r.seeded) :
    other.clearTransient = r.clearTransient := by
  rw [clearTransient, clearTransient, hpersistent, hseeded]

theorem persistent_setToken_eq (hpersistent : other.persistent = r.persistent) (token : String) :
    (other.setToken .persistent token).persistent = (r.setToken .persistent token).persistent := by
  rw [setToken, setToken, set, set, modify, modify, hpersistent]

theorem seeded_setToken_eq (hseeded : other.seeded = r.seeded) (token : String) :
    (other.setToken .persistent token).seeded = (r.setToken .persistent token).seeded := by
  rw [setToken, setToken, set, set, seeded_modify, seeded_modify, hseeded]

end OptionRegistry

namespace Stage.SameSoFar

variable {s t : Stage (Recorded ε)}

section
variable (h : s.SameSoFar t)
include h

theorem withRegistry {registry other : OptionRegistry} (hpersistent : other.persistent = registry.persistent)
    (hseeded : other.seeded = registry.seeded) : (s.withRegistry registry).SameSoFar (t.withRegistry other) :=
  { h with session := { h.session with persistent := hpersistent, seeded := hseeded } }

theorem withSettings (settings : Settings) : (s.withSettings settings).SameSoFar (t.withSettings settings) :=
  { h with session := { h.session with settings := rfl } }

theorem forEngine (settings : Settings) : t.session.forEngine settings = s.session.forEngine settings := by
  have hcredential : t.session.credential = s.session.credential := h.session.credential
  rw [Session.forEngine, Session.forEngine, hcredential]

end

theorem corresponds : Stage.Corresponds (SameSoFar (ε := ε)) where
  settings _ _ h := h.session.settings
  persistent _ _ h := h.session.persistent
  width _ _ h := h.session.width
  disk _ _ h := h.session.disk
  places _ _ h := h.session.places
  output _ _ h := h.output
  written _ _ _ h := { h with session := { h.session with }, output := rfl }
  saved _ _ _ h := { h with session := { h.session with disk := rfl } }
  option _ _ argument h := h.withRegistry (OptionRegistry.persistent_setToken_eq h.session.persistent argument)
    (OptionRegistry.seeded_setToken_eq h.session.seeded argument)
  unset _ _ key h := h.withRegistry (congrArg (fun map => Dict.erase map key) h.session.persistent) h.session.seeded

theorem configuresAlike : Stage.ConfiguresAlike (SameSoFar (ε := ε)) where
  answer s t settings h := by
    rw [h.forEngine]
    exact h.session.engine.configure [] [] rfl (s.session.forEngine settings)
  keeps s t settings h := by
    rw [h.forEngine]
    exact { h with session := { h.session with engine := h.session.engine.handing _ } }

theorem executesAlike : Stage.ExecutesAlike (SameSoFar (ε := ε)) where
  answer _ _ sql h := h.session.engine.execute [] [] rfl sql
  keeps _ _ sql h :=
    { h with
      session := { h.session with engine := h.session.engine.running sql }
      statements := congrArg (· ++ [sql]) h.statements }

/-- A line is sorted alike: what it does to the options begins with the persistent ones. -/
theorem sort_related (tokens : List String) :
    Related (SameSoFar (ε := ε)) Eq (sort tokens) (sort tokens) := by
  constructor
  intro s t h
  have hsettings : t.session.settings = s.session.settings := h.session.settings
  have hregistry : t.session.registry.clearTransient = s.session.registry.clearTransient :=
    OptionRegistry.clearTransient_eq h.session.persistent h.session.seeded
  rw [sort_eq, sort_eq, hsettings, hregistry]
  exact .ok rfl (h.withRegistry rfl rfl)

theorem dispatch_related (tokens : List String) :
    Related (SameSoFar (ε := ε)) Eq (dispatch tokens) (dispatch tokens) := by
  have hR : Stage.Corresponds (SameSoFar (ε := ε)) := corresponds
  refine TerseQuery.dispatch_related (sort_related tokens) ?_ ?_ ?_
  · rintro q _ rfl
    refine applyCredential_related hR.toShowsAlike configuresAlike ?_ q.credential?_related
    rintro s t credential _ rfl h
    exact { h with session := { h.session with credential := rfl } }
  · rintro q _ rfl
    exact .refl Request.RunsAlike.refl (q.request tokens)
  · intro request other hrequests
    refine Request.run_related hR executesAlike ?_ (fun name => ?_) hrequests
    · exact fun command s t settings _ _ h => h.withSettings settings
    · exact Command.setDatabase_related hR.toShowsAlike configuresAlike fun s t settings _ h => h.withSettings settings

end Stage.SameSoFar

namespace Line

variable {s t : Stage ε}

theorem sameSoFar_on (line : Line) (h : s.SameSession t) : (line.on s).SameSoFar (line.on t) where
  session := { h with }
  output := rfl
  statements := rfl

/-- A line cannot tell the stages apart. -/
theorem report_eq (line : Line) (h : s.SameSession t) :
    line.report t = line.report s ∧ (line.next s).SameSession (line.next t) := by
  have hresults := (Stage.SameSoFar.dispatch_related line.tokens).holds _ _ (line.sameSoFar_on h)
  have hlast := hresults.after
  refine ⟨?_, hlast.session⟩
  rw [report, report, hresults.result_eq, hlast.output, hlast.statements]

end Line

/-- Lines one after the other cannot tell the stages apart. -/
theorem reports_eq (lines : List Line) {s t : Stage ε} (h : s.SameSession t) :
    reports lines t = reports lines s ∧ (afterRun lines s).SameSession (afterRun lines t) := by
  induction lines generalizing s t with
  | nil => exact ⟨rfl, h⟩
  | cons line rest ih =>
    obtain ⟨hreport, hnext⟩ := line.report_eq h
    obtain ⟨hreports, hlast⟩ := ih hnext
    refine ⟨?_, hlast⟩
    rw [reports, reports, hreport, hreports]

end

/-! ## Query lines -/

section
variable {ε : Type}

/-- Whether a line is for a query: its words stand for one, or it is literal SQL. -/
def Session.TakesAsQuery (s : Session ε) (tokens : List String) : Prop :=
  (s.sort tokens).1.isQueryLine = true ∨ (s.sort tokens).1.foldedCommand? = some literalVerb

theorem Session.exists_query_of_request {s : Session ε} {tokens : List String} (h : s.TakesAsQuery tokens)
    {request : Request} (hrequest : (s.sort tokens).1.request tokens = .ok request) :
    ∃ q, request = .query q := by
  rcases h with hline | hliteral
  · rw [Query.request_of_isQueryLine hline] at hrequest
    cases hkind : (s.sort tokens).1.withKind with
    | error failure =>
      rw [hkind] at hrequest
      cases hrequest
    | ok q =>
      rw [hkind] at hrequest
      cases hrequest
      exact ⟨q, rfl⟩
  · rw [Query.request_of_literal hliteral] at hrequest
    split at hrequest <;> cases hrequest
    exact ⟨_, rfl⟩

variable [Engine ε]

/-- A query runs its statement and writes, and both are forgotten. -/
theorem SessionM.runQuery_keeps_sameSession (stage : Stage ε) (q : Query) :
    Keeps (fun last : Stage (Recorded ε) => stage.SameSession last.unrecorded) (runQuery q) :=
  runQuery_keeps (fun _ _ h => { h with }) (fun _ sql h => { h with engine := h.engine.running_right sql }) q

/-- A query line without a password leaves a stage that lines cannot tell from the one before it. It does so if
it fails, shows its statement or has it executed. -/
theorem Line.sameSession_of_query {line : Line} {stage : Stage ε}
    (hengine : Engine.SameBySettings stage.session.engine stage.session.engine)
    (hquery : stage.session.TakesAsQuery line.tokens)
    (hcredential : (stage.session.sort line.tokens).1.credential? = none) :
    stage.SameSession (line.next stage) := by
  have hnone : ((line.on stage).session.sort line.tokens).1.credential? = none := hcredential
  have haccepted : Accepted ((line.on stage).session.sort line.tokens).1 (line.on stage) := by
    intro credential hsome
    rw [hnone] at hsome
    cases hsome
  have hsorted : stage.SameSession ((line.on stage).prepared line.tokens).unrecorded := by
    rw [Stage.prepared_of_credential?_eq_none hnone]
    exact {
      settings := rfl
      persistent := stage.session.persistent_sort line.tokens
      seeded := stage.session.seeded_sort line.tokens
      credential := rfl
      width := rfl
      disk := rfl
      places := rfl
      engine := hengine }
  rw [Line.next, after, dispatch_of_accepted haccepted]
  cases hrequest : ((line.on stage).session.sort line.tokens).1.request line.tokens with
  | error failure => exact hsorted
  | ok request =>
    obtain ⟨q, rfl⟩ := Session.exists_query_of_request (s := stage.session) hquery hrequest
    exact (runQuery_keeps_sameSession stage q).holds _ hsorted

/-- Query lines can be left out of a session. If the answers of the engine depend on nothing but what it is asked
and the settings that it was handed, and a query line brings no password, then all other lines come to the same
without it, write the same and have the same statements executed, and the settings and the persistent options
are the same in the end. -/
theorem query_lines_erasable (stage : Stage ε) (before rest : List Line) (line : Line)
    (hengine : Engine.SameBySettings stage.session.engine stage.session.engine)
    (hquery : (afterRun before stage).session.TakesAsQuery line.tokens)
    (hcredential : ((afterRun before stage).session.sort line.tokens).1.credential? = none) :
    (reports (before ++ line :: rest) stage).eraseIdx before.length = reports (before ++ rest) stage ∧
      (afterRun (before ++ rest) stage).SameSession (afterRun (before ++ line :: rest) stage) := by
  have hbegins : stage.SameSession stage := .refl hengine
  have hmiddle := (reports_eq before hbegins).2.engine
  obtain ⟨hreports, hlast⟩ := reports_eq rest (line.sameSession_of_query hmiddle hquery hcredential)
  have hlength := length_reports before stage
  constructor
  · rw [reports_append, reports_append, reports, List.eraseIdx_append_of_length_le (Nat.le_of_eq hlength), hlength,
      Nat.sub_self, List.eraseIdx_cons_zero, hreports]
  · rw [afterRun_append, afterRun_append]
    exact hlast

end

/-- A session with a database that has one row for each statement. -/
def Stage.stocked : Stage SqliteEngine :=
  (Session.connected ⟨some "a", fun path =>
    if path = "a" then some fun _ => .rows ["id"] [[.integer 7]] else none⟩).alone

/-- A query line that shows its statement and has it executed, and whose output ends before the rows. -/
def cutLine : Line :=
  ⟨["users", "id>3", "-vertical", "-q", "-r"], .bounded 40⟩

/-- Lines with an output without end. -/
def endlessLines (lines : List (List String)) : List Line :=
  lines.map (⟨·, .unbounded⟩)

theorem query_lines_erasable_cut :
    (cutLine.report (afterRun (endlessLines [["\\format", "tab"]]) Stage.stocked)).result =
        .error (.output "sink closed") ∧
      (reports (endlessLines [["\\format", "tab"]] ++ cutLine :: endlessLines [["users"], ["\\save"]])
          Stage.stocked).eraseIdx 1 =
        reports (endlessLines [["\\format", "tab"]] ++ endlessLines [["users"], ["\\save"]]) Stage.stocked ∧
      (afterRun (endlessLines [["\\format", "tab"]] ++ endlessLines [["users"], ["\\save"]])
          Stage.stocked).SameSession
        (afterRun (endlessLines [["\\format", "tab"]] ++ cutLine :: endlessLines [["users"], ["\\save"]])
          Stage.stocked) := by
  have hengine := Engine.sameBySettings_of_execute (fun _ _ => rfl) Stage.stocked.session.engine
  refine ⟨by decide +kernel, query_lines_erasable Stage.stocked _ _ cutLine hengine (.inl ?_) ?_⟩
  · decide +kernel
  · decide +kernel

end TerseQuery
