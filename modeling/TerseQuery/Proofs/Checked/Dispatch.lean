import TerseQuery.Proofs.Checked.Rendering
import TerseQuery.Proofs.Checked.Sorting
import TerseQuery.Proofs.Checked.Synthesis
import TerseQuery.Proofs.Session.Steps

/-!
# Lines of a session with accesses

A line is sorted, its SQL is made and its result is shown with each access as a step of its own. Results without
columns are not shown as rows, so the one kind of result that cannot be shown is never asked for.

* `present_eq`: what an engine returns is shown, whatever it is;
* `dispatch_eq`: a line does all that it does without accesses;
* `afterLines_eq`: so do all lines of a session;
* `accesses_succeed`: the accesses one kind after the other, and all of them in a session.
-/

namespace TerseQuery.Checked

section
variable {ε : Type}

/-- What may be refused, as a part of what is done on a stage. -/
def orFail {α : Type} (found : OptionT (Except Failure) α) : OptionT (SessionM ε) α :=
  OptionT.mk (ofExcept found.run)

theorem orFail_liftM {α : Type} (found : Except Failure α) :
    (orFail (liftM found) : OptionT (SessionM ε) α) = liftM (ofExcept found : SessionM ε α) := by
  cases found <;> rfl

theorem run_liftM {α : Type} (action : SessionM ε α) (stage : Stage ε) :
    (liftM action : OptionT (SessionM ε) α).run stage =
      match action stage with
      | .ok value last => .ok (some value) last
      | .error failure last => .error failure last :=
  SessionM.bind_eq stage

/-- What a sorted line asks for. -/
def request (q : Query) (tokens : List String) : OptionT (Except Failure) Request :=
  match q.foldedCommand? with
  | some name =>
    if q.isQueryLine then liftM (q.withKind.map .query)
    else if name = literalVerb then
      if q.literal.isSome then return .query q else refuse (.input .missingStatement)
    else do
      let arguments ← access (commandArguments tokens)
      liftM ((Command.ofWords name arguments).map .command)
  | none => liftM (q.withKind.map .query)

/-- Sorts a line. -/
def sort (tokens : List String) : OptionT (SessionM ε) Query := do
  let s ← SessionM.session (ε := ε)
  let (query, registry) ←
    access (sortLine s.settings.leader s.settings.table s.registry.clearTransient tokens)
  SessionM.modifySession (ε := ε) fun _ => { s with registry }
  return query

/-- Shows what a statement returned: its rows, or how many it changed. -/
def present (q : Query) (kind : QueryKind) (result : ResultSet) : OptionT (SessionM ε) Outcome := do
  if result.hasColumns then
    let s ← SessionM.session (ε := ε)
    let mode := q.options.displayMode?.getD s.settings.format
    let anchor := ResultSet.anchorOf result.columns (q.anchorCandidates s.settings)
    let shown ← access (lines result mode s.width anchor)
    SessionM.writeLines (ε := ε) shown
    return if result.isEmpty then .noRows else .rows kind result.rows.length
  else
    let rows := result.rowsAffected.getD 0
    SessionM.writeLine (ε := ε) s!"{rows} row(s) affected."
    return .affected kind rows

/-- Shows the statement of a query, executes it, or both. -/
def runQuery [Engine ε] (q : Query) : OptionT (SessionM ε) Outcome := do
  let (sql, kind) ← orFail (synthesize q)
  if q.shows then SessionM.writeLine (ε := ε) sql
  if q.runs then
    let result ← SessionM.execute (ε := ε) sql
    present q kind result
  else return .shown kind sql

/-- All that a line does. -/
def dispatch [Engine ε] (tokens : List String) : OptionT (SessionM ε) Outcome := do
  let q ← sort tokens
  SessionM.applyCredential (ε := ε) q
  match ← orFail (request q tokens) with
  | .command command =>
    command.run (ε := ε)
    return .command
  | .query q => runQuery q

theorem request_eq (q : Query) (tokens : List String) : request q tokens = liftM (q.request tokens) := by
  rw [request, Query.request, commandArguments_eq]
  simp only [access_some, pure_bind]
  cases q.foldedCommand? with
  | none => rfl
  | some name =>
    dsimp only
    split
    · rfl
    · split
      · split <;> rfl
      · rfl

theorem sort_eq (tokens : List String) :
    (sort tokens : OptionT (SessionM ε) Query) = liftM (SessionM.sort tokens : SessionM ε Query) := by
  rw [sort, SessionM.sort, liftM_bind]
  refine bind_congr fun s => ?_
  rw [sortLine_eq_some, access_some, pure_bind]
  rfl

theorem present_eq (q : Query) (kind : QueryKind) (result : ResultSet) :
    (present q kind result : OptionT (SessionM ε) Outcome) =
      liftM (SessionM.present q kind result : SessionM ε Outcome) := by
  rw [present, SessionM.present]
  by_cases hcolumns : result.hasColumns = true
  · rw [if_pos hcolumns, dif_pos hcolumns, liftM_bind]
    refine bind_congr fun s => ?_
    -- Columns there are, so the result can be shown in each mode.
    have hlines : ∀ mode anchor, lines result mode s.width anchor =
        some (result.lines hcolumns mode s.width anchor) := by
      intro mode anchor
      rw [lines_eq, ResultSet.lines, Option.some_get]
    simp only [hlines, access_some, pure_bind, liftM_bind, liftM_pure]
  · rw [if_neg hcolumns, dif_neg hcolumns]
    simp only [liftM_bind, liftM_pure]

theorem runQuery_eq [Engine ε] (q : Query) :
    (runQuery q : OptionT (SessionM ε) Outcome) = liftM (SessionM.runQuery q : SessionM ε Outcome) := by
  rw [runQuery, SessionM.runQuery, synthesize_eq, orFail_liftM, liftM_bind]
  refine bind_congr fun found => ?_
  have hpresent : (present q found.2 : ResultSet → OptionT (SessionM ε) Outcome) =
      fun result => liftM (SessionM.present q found.2 result : SessionM ε Outcome) :=
    funext (present_eq q found.2)
  simp only [hpresent]
  split <;> split <;> simp only [liftM_bind, liftM_pure]

/-- No access fails in a line. -/
theorem dispatch_eq [Engine ε] (tokens : List String) :
    (dispatch tokens : OptionT (SessionM ε) Outcome) =
      liftM (TerseQuery.dispatch tokens : SessionM ε Outcome) := by
  rw [dispatch, TerseQuery.dispatch, sort_eq, liftM_bind]
  refine bind_congr fun q => ?_
  rw [liftM_bind]
  refine bind_congr fun _ => ?_
  rw [request_eq, orFail_liftM, liftM_bind]
  refine bind_congr fun request => ?_
  cases request with
  | command command => simp only [liftM_bind, liftM_pure]
  | query q => exact runQuery_eq q

/-- The stage after lines that are run one after the other, if no access fails in them. -/
def afterLines [Engine ε] (lines : List (List String)) (stage : Stage ε) : Option (Stage ε) :=
  lines.foldlM (fun stage tokens =>
    match (dispatch tokens).run stage with
    | .ok none _ => none
    | .ok (some _) last => some last
    | .error _ last => some last) stage

theorem afterLines_eq [Engine ε] (lines : List (List String)) (stage : Stage ε) :
    afterLines lines stage = some (TerseQuery.afterLines lines stage) := by
  have hstep : (fun (stage : Stage ε) (tokens : List String) =>
      match (dispatch tokens).run stage with
      | .ok none _ => none
      | .ok (some _) last => some last
      | .error _ last => some last) =
      fun stage tokens => pure (SessionM.after (TerseQuery.dispatch tokens) stage) := by
    funext stage tokens
    rw [dispatch_eq, run_liftM, SessionM.after]
    cases TerseQuery.dispatch tokens stage <;> rfl
  rw [afterLines, hstep, List.foldlM_pure]
  rfl

end

/-! ## All accesses -/

/-- No access fails, whatever the tokens, the widths, the anchor and the result are, but in a result with rows
and without columns that is shown without wrapping; and a session never shows such a result. -/
theorem accesses_succeed {ε : Type} [Engine ε] :
    (∀ token, splitToken token = some (Token.sigil token, Token.word token)) ∧
      (∀ word, operator word = some (Token.operator? word)) ∧
      (∀ text op, assignment text op = liftM (Query.assignment text op)) ∧
      (∀ widths limit anchor, plan widths limit anchor = some (Chunk.plan widths limit anchor)) ∧
      (∀ cells, formatLine cells = some (TerseQuery.formatLine cells)) ∧
      (∀ number recordWidth, banner number recordWidth = some (ResultSet.banner number recordWidth)) ∧
      (∀ r, verticalLines r = some r.verticalLines) ∧
      (∀ r mode width anchor, lines r mode width anchor = r.lines? mode width anchor ∧
        (lines r mode width anchor = none ↔ mode = .nowrap ∧ r.rows ≠ [] ∧ r.columns = [])) ∧
      (∀ q kind result, (present q kind result : OptionT (SessionM ε) Outcome) =
        liftM (SessionM.present q kind result : SessionM ε Outcome)) ∧
      (∀ tokens, (dispatch tokens : OptionT (SessionM ε) Outcome) =
        liftM (TerseQuery.dispatch tokens : SessionM ε Outcome)) ∧
      ∀ lines (stage : Stage ε), afterLines lines stage = some (TerseQuery.afterLines lines stage) :=
  ⟨splitToken_eq, operator_eq, assignment_eq, plan_eq, formatLine_eq, banner_eq, verticalLines_eq,
    fun r mode width anchor => ⟨lines_eq r mode width anchor, lines_eq_none_iff r mode width anchor⟩,
    present_eq, dispatch_eq, afterLines_eq⟩

end TerseQuery.Checked
