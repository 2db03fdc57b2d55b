import TerseQuery.Proofs.Query.Deduction
import TerseQuery.Proofs.Session.Invariants
import TerseQuery.Proofs.Session.Recording

/-!
# Statements that lines execute

* `Asks`: what a line asks to be executed, and of which kind that is, from its tokens;
* `Executes`: when a line has it executed;
* `dispatch_executes`: a line has at most one statement executed, and just the one of `Executes`.
-/

namespace TerseQuery

/-! ## What lines ask for -/

/-- The kind of literal SQL: the one that its first word names, if it names one. -/
def statedKind (sql : String) : QueryKind :=
  ((Text.words sql).head?.bind Query.verbKind?).getD .undetermined

/-- The statement that a line asks for and its kind: that of its query, or its own text. -/
inductive Asks {ε : Type} (s : Session ε) (tokens : List String) : String → QueryKind → Prop where
  /-- A line without command, or with the verb of a query, asks for what its query stands for. -/
  | query {kind : QueryKind} {sql : String}
      (hline : ∀ name ∈ (s.sort tokens).1.command, (Query.verbKind? name).isSome = true)
      (hkind : (s.sort tokens).1.deduceKind = .ok kind)
      (hsql : { (s.sort tokens).1 with kind := some kind }.synthesize = .ok (sql, kind)) :
      Asks s tokens sql kind
  /-- Literal SQL is all from the first token that is no option. -/
  | literal {name : String} {rest : List String}
      (hcommand : splitCommand s.settings.leader tokens = (some name, rest))
      (hname : name.toLower = "sq") (hsql : rest.dropWhile Token.isStrictOption ≠ []) :
      Asks s tokens (String.intercalate " " (rest.dropWhile Token.isStrictOption))
        (statedKind (String.intercalate " " (rest.dropWhile Token.isStrictOption)))

namespace Query

variable {q : Query}

/-- The kind that is synthesized is that of the query, unless it is literal SQL. -/
theorem kind_of_synthesize {kind other : QueryKind} {sql : String} (hliteral : q.literal = none)
    (h : { q with kind := some kind }.synthesize = .ok (sql, other)) : other = kind := by
  simp only [synthesize, hliteral, pure_bind] at h
  obtain ⟨statement, -, hstatement⟩ := bind_eq_ok.mp h
  cases hstatement
  rfl

theorem isQueryLine_iff : q.isQueryLine = true ↔ ∀ name ∈ q.command, (verbKind? name).isSome = true := by
  rw [isQueryLine, Option.all_eq_true, ofVerb?_eq]
  rfl

theorem request_of_isQueryLine (h : q.isQueryLine = true) (tokens : List String) :
    q.request tokens = q.withKind.map .query := by
  unfold request
  split
  · rw [if_pos h]
  · rfl

theorem isQueryLine_of_literal (h : q.foldedCommand? = some literalVerb) : q.isQueryLine = false := by
  obtain ⟨name, hname, hfolded⟩ := Option.map_eq_some_iff.mp h
  simp [isQueryLine, hname, QueryKind.ofVerb?, hfolded, literalVerb]

theorem request_of_literal (h : q.foldedCommand? = some literalVerb) (tokens : List String) :
    q.request tokens = if q.literal.isSome then .ok (.query q) else .error (.input .missingStatement) := by
  simp [request, h, isQueryLine_of_literal h]

/-- A command that is neither the verb of a query nor that of literal SQL asks for no query. -/
theorem request_ne_query (hline : q.isQueryLine = false) (hliteral : q.foldedCommand? ≠ some literalVerb)
    (tokens : List String) (other : Query) : q.request tokens ≠ .ok (.query other) := by
  unfold request
  split
  · rename_i name hname
    rw [if_neg (by simp [hline]), if_neg (fun hsame => hliteral (by rw [hname, hsame]))]
    cases Command.ofWords name (commandArguments tokens) <;> nofun
  · rename_i hnone
    have hcommand : q.command = none := Option.map_eq_none_iff.mp hnone
    simp [isQueryLine, hcommand] at hline

theorem withKind_map_eq_ok {other : Query} :
    q.withKind.map Request.query = .ok (.query other) ↔
      ∃ kind, q.deduceKind = .ok kind ∧ { q with kind := some kind } = other := by
  unfold withKind
  cases q.deduceKind with
  | error failure => simp [Except.map]
  | ok kind => simp [Except.map]

theorem options_of_request {tokens : List String} {other : Query} (h : q.request tokens = .ok (.query other)) :
    other.options = q.options := by
  cases hline : q.isQueryLine with
  | true =>
    rw [request_of_isQueryLine hline, withKind_map_eq_ok] at h
    obtain ⟨kind, -, rfl⟩ := h
    rfl
  | false =>
    by_cases hliteral : q.foldedCommand? = some literalVerb
    · rw [request_of_literal hliteral] at h
      split at h <;> cases h
      rfl
    · exact absurd h (request_ne_query hline hliteral tokens other)

end Query

theorem literalKind_eq (sql : String) : Query.literalKind sql = statedKind sql := by
  rw [Query.literalKind, statedKind, Query.ofVerb?_eq]

theorem equalFolded_literalVerb {name : String} :
    Text.equalFolded literalVerb name = true ↔ name.toLower = "sq" := by
  have hverb : Text.lower literalVerb = "sq" := by decide +kernel
  rw [Text.equalFolded, hverb, beq_iff_eq]
  exact eq_comm

section
variable {ε : Type} {s : Session ε} {tokens : List String} {sql : String} {kind : QueryKind}

theorem asks_iff_of_literal {name : String} {rest : List String}
    (hcommand : splitCommand s.settings.leader tokens = (some name, rest))
    (hname : Text.equalFolded literalVerb name = true) :
    (∃ q, (s.sort tokens).1.request tokens = .ok (.query q) ∧ q.synthesize = .ok (sql, kind)) ↔
      Asks s tokens sql kind := by
  have hline : Sorting.isLiteralLine s.settings.leader tokens = true := by
    rw [Sorting.isLiteralLine, hcommand, Option.any_some, hname]
  have hplaced := Sorting.sortLine_eq_placedLiteral s.settings.table s.registry.clearTransient hline
  have hfound : (s.sort tokens).1.command = some name := by
    rw [Session.fst_sort, hplaced, hcommand]
    rfl
  have hliteral : (s.sort tokens).1.literal = Sorting.joined? (rest.dropWhile Token.isStrictOption) := by
    rw [Session.fst_sort, hplaced, hcommand]
    rfl
  have hfolded : (s.sort tokens).1.foldedCommand? = some literalVerb := by
    rw [Query.foldedCommand?, hfound, Option.map_some]
    exact congrArg some (equalFolded_literalVerb.mp hname)
  rw [Query.request_of_literal hfolded]
  constructor
  · rintro ⟨q, hrequest, hsynthesize⟩
    by_cases hsql : rest.dropWhile Token.isStrictOption = []
    · rw [Sorting.joined?, if_pos hsql] at hliteral
      rw [hliteral] at hrequest
      cases hrequest
    · rw [Sorting.joined?, if_neg hsql] at hliteral
      rw [hliteral] at hrequest
      cases hrequest
      rw [Query.synthesize, hliteral] at hsynthesize
      cases hsynthesize
      rw [literalKind_eq]
      exact .literal hcommand (equalFolded_literalVerb.mp hname) hsql
  · intro h
    cases h with
    | query hline =>
      have hnot := Query.isQueryLine_of_literal hfolded
      rw [Query.isQueryLine_iff.mpr hline] at hnot
      cases hnot
    | literal hcommand' _ hsql =>
      rw [hcommand] at hcommand'
      cases hcommand'
      rw [Sorting.joined?, if_neg hsql] at hliteral
      refine ⟨(s.sort tokens).1, by rw [hliteral]; rfl, ?_⟩
      rw [Query.synthesize, hliteral, ← literalKind_eq]

theorem asks_iff_of_not_literal (hline : Sorting.isLiteralLine s.settings.leader tokens = false) :
    (∃ q, (s.sort tokens).1.request tokens = .ok (.query q) ∧ q.synthesize = .ok (sql, kind)) ↔
      Asks s tokens sql kind := by
  have hliteral : (s.sort tokens).1.literal = none := by
    rw [Session.fst_sort, Sorting.sortLine_eq _ _ hline, Sorting.literal_placed]
  have hcommand : (s.sort tokens).1.command = (splitCommand s.settings.leader tokens).1 := by
    rw [Session.fst_sort, Sorting.sortLine_eq _ _ hline, Sorting.command_placed]
  have hnone : ∀ name, (splitCommand s.settings.leader tokens).1 = some name →
      Text.equalFolded literalVerb name = false := by
    intro name hname
    rw [Sorting.isLiteralLine, hname] at hline
    exact hline
  constructor
  · rintro ⟨q, hrequest, hsynthesize⟩
    cases hquery : (s.sort tokens).1.isQueryLine with
    | true =>
      rw [Query.request_of_isQueryLine hquery, Query.withKind_map_eq_ok] at hrequest
      obtain ⟨deduced, hdeduced, rfl⟩ := hrequest
      obtain rfl := Query.kind_of_synthesize hliteral hsynthesize
      exact .query (Query.isQueryLine_iff.mp hquery) hdeduced hsynthesize
    | false =>
      refine absurd hrequest (Query.request_ne_query hquery (fun hfolded => ?_) tokens q)
      obtain ⟨name, hname, hlower⟩ := Option.map_eq_some_iff.mp hfolded
      have hsame := hnone name (hcommand.symm.trans hname)
      rw [equalFolded_literalVerb.mpr hlower] at hsame
      cases hsame
  · intro h
    cases h with
    | query hquery hkind hsql =>
      refine ⟨_, ?_, hsql⟩
      rw [Query.request_of_isQueryLine (Query.isQueryLine_iff.mpr hquery), Query.withKind_map_eq_ok]
      exact ⟨kind, hkind, rfl⟩
    | literal hcommand' hname =>
      have hsame := hnone _ (by rw [hcommand'])
      rw [equalFolded_literalVerb.mpr hname] at hsame
      cases hsame

/-- What a line asks for is the statement of the query that is run for it. -/
theorem asks_iff :
    (∃ q, (s.sort tokens).1.request tokens = .ok (.query q) ∧ q.synthesize = .ok (sql, kind)) ↔
      Asks s tokens sql kind := by
  cases hline : Sorting.isLiteralLine s.settings.leader tokens with
  | false => exact asks_iff_of_not_literal hline
  | true =>
    rcases hcommand : splitCommand s.settings.leader tokens with ⟨_ | name, rest⟩
    · rw [Sorting.isLiteralLine, hcommand] at hline
      cases hline
    · rw [Sorting.isLiteralLine, hcommand] at hline
      exact asks_iff_of_literal hcommand hline

/-- What a line asks for does not depend on the engine. -/
theorem asks_recorded {stage : Stage ε} :
    Asks stage.recorded.session tokens sql kind ↔ Asks stage.session tokens sql kind := by
  rw [← asks_iff, ← asks_iff]
  rfl

end

/-! ## What lines come to -/

/-- What a statement of a kind comes to when it is executed. -/
inductive Outcome.Ran (kind : QueryKind) : Outcome → Prop where
  | rows (count : Nat) : Ran kind (.rows kind count)
  | noRows : Ran kind .noRows
  | affected (rows : Nat) : Ran kind (.affected kind rows)

/-- What a line that succeeds comes to, by what it asks for and what it had executed. -/
inductive Outcome.Fits (asks : String → QueryKind → Prop) : Option String → Outcome → Prop where
  | command : Fits asks none .command
  | shown {sql : String} {kind : QueryKind} (h : asks sql kind) : Fits asks none (.shown kind sql)
  | ran {sql : String} {kind : QueryKind} {outcome : Outcome} (h : asks sql kind) (hran : outcome.Ran kind) :
      Fits asks (some sql) outcome

theorem Outcome.Fits.imp {asks others : String → QueryKind → Prop}
    (h : ∀ sql kind, asks sql kind → others sql kind) {executed : Option String} {outcome : Outcome}
    (hfits : outcome.Fits asks executed) : outcome.Fits others executed := by
  cases hfits with
  | command => exact .command
  | shown hasks => exact .shown (h _ _ hasks)
  | ran hasks hran => exact .ran (h _ _ hasks) hran

namespace SessionM

variable {ε : Type}

theorem writeLine_eq (line : String) (stage : Stage ε) :
    writeLine line stage =
      match stage.output.write (line ++ "\n") with
      | .ok output => .ok () { stage with output }
      | .error failure => .error failure stage := by
  rw [writeLine, writeLines, writeAll_eq, List.map_cons, List.map_nil, Sink.writeAll]
  cases stage.output.write (line ++ "\n") <;> rfl

theorem eq_of_bind_pure {α β : Type} {action : SessionM ε α} {value found : β} {stage last : Stage ε}
    (h : (action >>= fun _ => pure value) stage = .ok found last) : found = value := by
  rw [bind_eq] at h
  cases hfirst : action stage with
  | ok first middle =>
    rw [hfirst] at h
    cases h
    rfl
  | error failure middle =>
    rw [hfirst] at h
    cases h

theorem ran_of_present {q : Query} {kind : QueryKind} {result : ResultSet} {stage last : Stage ε}
    {outcome : Outcome} (h : present q kind result stage = .ok outcome last) : outcome.Ran kind := by
  unfold present at h
  split at h
  · change (writeLines _ >>= fun _ => pure _) stage = _ at h
    obtain rfl := eq_of_bind_pure h
    split
    · exact .noRows
    · exact .rows _
  · obtain rfl := eq_of_bind_pure h
    exact .affected _

variable [Engine ε]

theorem runQuery_eq (q : Query) (stage : Stage ε) :
    runQuery q stage =
      match q.synthesize with
      | .error failure => .error failure stage
      | .ok (sql, kind) =>
        if q.shows then
          match stage.output.write (sql ++ "\n") with
          | .ok output => perform q sql kind { stage with output }
          | .error failure => .error failure stage
        else perform q sql kind stage := by
  rw [runQuery, bind_eq]
  rcases q.synthesize with failure | ⟨sql, kind⟩
  · rfl
  · change (if q.shows then writeLine sql >>= fun _ => perform q sql kind else perform q sql kind :
      SessionM ε Outcome) stage = _
    dsimp only
    split
    · rw [bind_eq, writeLine_eq]
      cases stage.output.write (sql ++ "\n") <;> rfl
    · rfl

end SessionM

/-! ## Statements that reach the engine -/

/-- The statements that the engine of a stage was to run. -/
def Stage.statements {ε : Type} (stage : Stage (Recorded ε)) : List String :=
  stage.session.engine.statements

theorem Stage.statements_withRegistry {ε : Type} (stage : Stage (Recorded ε)) (registry : OptionRegistry) :
    (stage.withRegistry registry).statements = stage.statements := rfl

/-- Whether these are the statements that the engine of a stage was to run. -/
def Stage.HasRun {ε : Type} (statements : List String) (stage : Stage (Recorded ε)) : Prop :=
  stage.statements = statements

section
variable {ε : Type} [Engine ε]

/-- Only executing a statement adds to the statements of the engine. -/
theorem Effect.hasRun (statements : List String) (stage next : Stage (Recorded ε)) (h : Effect stage next)
    (hstage : stage.HasRun statements) : next.HasRun statements := by
  cases h with
  | option argument => exact (stage.statements_withRegistry _).trans hstage
  | _ => exact hstage

namespace SessionM

theorem execute_recorded (sql : String) (stage : Stage (Recorded ε)) :
    (after (execute sql) stage).statements = stage.statements ++ [sql] := by
  have hstatements : (Engine.execute sql stage.session.engine).2.statements = stage.statements ++ [sql] := rfl
  rw [after, execute_eq]
  rcases hanswer : Engine.execute sql stage.session.engine with ⟨_ | _, engine⟩ <;>
  · rw [hanswer] at hstatements
    exact hstatements

/-- A query that is run has its statement executed, and only that. -/
theorem perform_recorded (q : Query) (sql : String) (kind : QueryKind) (stage : Stage (Recorded ε)) :
    (after (perform q sql kind) stage).statements =
        stage.statements ++ (if q.runs then some sql else none).toList ∧
      ∀ outcome last, perform q sql kind stage = .ok outcome last →
        outcome.Fits (fun other named => other = sql ∧ named = kind) (if q.runs then some sql else none) := by
  unfold perform
  cases hruns : q.runs with
  | false =>
    refine ⟨(List.append_nil _).symm, fun outcome last h => ?_⟩
    cases h
    exact .shown ⟨rfl, rfl⟩
  | true =>
    have hexecuted := execute_recorded sql stage
    rw [after] at hexecuted
    rw [if_pos rfl, if_pos rfl, after, bind_eq]
    cases hresult : execute sql stage with
    | error failure middle =>
      rw [hresult] at hexecuted
      dsimp only at hexecuted ⊢
      refine ⟨hexecuted, fun outcome last h => ?_⟩
      cases h
    | ok result middle =>
      rw [hresult] at hexecuted
      dsimp only at hexecuted ⊢
      have hpresent : Keeps (Stage.HasRun (ε := ε) (stage.statements ++ [sql])) (present q kind result) :=
        present_keeps (fun _ _ hstage => hstage) q kind result
      exact ⟨hpresent.holds middle hexecuted, fun outcome last h => .ran ⟨rfl, rfl⟩ (ran_of_present h)⟩

/-- Whether the output takes a statement if the query shows it. -/
def Shown (q : Query) (output : Sink) (sql : String) : Prop :=
  q.shows = true → ∃ longer, output.write (sql ++ "\n") = .ok longer

theorem runQuery_of_shown {q : Query} {sql : String} {kind : QueryKind} {stage : Stage (Recorded ε)}
    (hsynthesize : q.synthesize = .ok (sql, kind)) (hshown : Shown q stage.output sql) :
    ∃ middle, middle.HasRun stage.statements ∧ runQuery q stage = perform q sql kind middle := by
  rw [runQuery_eq, hsynthesize]
  dsimp only
  cases hshows : q.shows with
  | false => exact ⟨stage, rfl, rfl⟩
  | true =>
    obtain ⟨longer, hlonger⟩ := hshown hshows
    rw [hlonger]
    exact ⟨{ stage with output := longer }, rfl, rfl⟩

theorem runQuery_of_not_shown {q : Query} {sql : String} {kind : QueryKind} {stage : Stage (Recorded ε)}
    (hsynthesize : q.synthesize = .ok (sql, kind)) (hshown : ¬ Shown q stage.output sql) :
    ∃ failure, runQuery q stage = .error failure stage := by
  rw [runQuery_eq, hsynthesize]
  dsimp only
  rw [Shown, Classical.not_imp] at hshown
  rw [if_pos hshown.1]
  cases hwrite : stage.output.write (sql ++ "\n") with
  | ok longer => exact absurd ⟨longer, hwrite⟩ hshown.2
  | error failure => exact ⟨failure, rfl⟩

/-- What a query has executed: its statement if it is run, and shown before where it is to be shown. -/
theorem runQuery_recorded (q : Query) (stage : Stage (Recorded ε)) : ∃ executed : Option String,
    (after (runQuery q) stage).statements = stage.statements ++ executed.toList ∧
      (∀ sql, executed = some sql ↔
        ∃ kind, q.synthesize = .ok (sql, kind) ∧ q.runs = true ∧ Shown q stage.output sql) ∧
      ∀ outcome last, runQuery q stage = .ok outcome last →
        outcome.Fits (fun sql kind => q.synthesize = .ok (sql, kind)) executed := by
  rcases hsynthesize : q.synthesize with failure | ⟨sql, kind⟩
  · have hfails : runQuery q stage = .error failure stage := by rw [runQuery_eq, hsynthesize]
    rw [after, hfails]
    refine ⟨none, (List.append_nil _).symm, by simp, fun outcome last h => ?_⟩
    cases h
  · by_cases hshown : Shown q stage.output sql
    · obtain ⟨middle, hmiddle, hperform⟩ := runQuery_of_shown hsynthesize hshown
      obtain ⟨hstatements, hfits⟩ := perform_recorded q sql kind middle
      rw [after, hperform]
      refine ⟨if q.runs then some sql else none, hmiddle ▸ hstatements, fun other => ?_, ?_⟩
      · constructor
        · intro hexecuted
          split at hexecuted
          · rename_i hruns
            cases hexecuted
            exact ⟨kind, rfl, hruns, hshown⟩
          · cases hexecuted
        · rintro ⟨named, hnamed, hruns, -⟩
          cases hnamed
          rw [if_pos hruns]
      · intro outcome last h
        refine (hfits outcome last h).imp fun other named hsame => ?_
        rw [hsame.1, hsame.2]
    · obtain ⟨failure, hfails⟩ := runQuery_of_not_shown hsynthesize hshown
      rw [after, hfails]
      refine ⟨none, (List.append_nil _).symm, fun other => ⟨fun hnone => ?_, ?_⟩, fun outcome last h => ?_⟩
      · cases hnone
      · rintro ⟨named, hnamed, -, hother⟩
        cases hnamed
        exact absurd hother hshown
      · cases h

end SessionM

open SessionM

/-! ## Lines that execute -/

/-- When a line has a statement of a kind executed: it asks for it, its password is accepted, its options say
that it is run, or do not say that it is shown, and if it is to be shown the output takes it. -/
structure Executes (stage : Stage ε) (tokens : List String) (sql : String) (kind : QueryKind) : Prop where
  asks : Asks stage.session tokens sql kind
  accepted : ∀ password ∈ stage.session.broughtPassword? tokens, (Engine.configure { stage.session.settings with
    connection := { stage.session.settings.connection with password := some password } }
    stage.session.engine).1 = .ok ()
  runs : (stage.session.sort tokens).2.registry.effective.contains "r" = true ∨
    (stage.session.sort tokens).2.registry.effective.contains "q" = false
  shown : (stage.session.sort tokens).2.registry.effective.contains "q" = true →
    ∃ longer, stage.output.write (sql ++ "\n") = .ok longer

/-- The conditions on a line as conditions on the query that is run for it. -/
theorem executes_iff {stage : Stage ε} {tokens : List String} {q : Query} {sql : String} {kind : QueryKind}
    (hrequest : (stage.session.sort tokens).1.request tokens = .ok (.query q)) :
    Executes stage tokens sql kind ↔ Accepted (stage.session.sort tokens).1 stage ∧
      q.synthesize = .ok (sql, kind) ∧ q.runs = true ∧ Shown q stage.output sql := by
  have hoptions : q.options = (stage.session.sort tokens).2.registry.effective := Query.options_of_request hrequest
  have hasks : Asks stage.session tokens sql kind ↔ q.synthesize = .ok (sql, kind) := by
    rw [← asks_iff]
    constructor
    · rintro ⟨other, hother, hsynthesize⟩
      rw [hrequest] at hother
      cases hother
      exact hsynthesize
    · exact fun h => ⟨q, hrequest, h⟩
  have hruns : q.runs = true ↔
      (stage.session.sort tokens).2.registry.effective.contains "r" = true ∨
        (stage.session.sort tokens).2.registry.effective.contains "q" = false := by
    simp [Query.runs, Query.shows, Query.hasOption, hoptions]
  constructor
  · intro h
    refine ⟨accepted_iff.mpr h.accepted, hasks.mp h.asks, hruns.mpr h.runs, fun hshows => h.shown ?_⟩
    rw [← hoptions]
    exact hshows
  · rintro ⟨haccepted, hsynthesize, hrun, hshown⟩
    refine ⟨hasks.mpr hsynthesize, accepted_iff.mp haccepted, hruns.mp hrun, fun hshows => hshown ?_⟩
    rw [← hoptions] at hshows
    exact hshows

/-- Until a line does what it asks for, it executes nothing. -/
theorem hasRun_prepared (stage : Stage (Recorded ε)) (tokens : List String) :
    (stage.prepared tokens).HasRun stage.statements :=
  (applyCredential_keeps (Effect.hasRun (ε := ε) stage.statements) _).holds _ rfl

theorem Stage.output_prepared (stage : Stage ε) (tokens : List String) :
    (stage.prepared tokens).output = stage.output := by
  obtain ⟨engine, hprepared⟩ := stage.exists_prepared_eq tokens
  rw [hprepared]

/-- A line that asks for no query executes nothing: a command, one that is unknown or lacks its arguments, or
a query whose kind is not consistent. -/
theorem recorded_of_no_query {tokens : List String} {stage : Stage (Recorded ε)}
    (h : ∀ q, (stage.session.sort tokens).1.request tokens ≠ .ok (.query q)) :
    (after (dispatch tokens) stage).HasRun stage.statements ∧
      ∀ outcome last, dispatch tokens stage = .ok outcome last → outcome = .command := by
  have hprepared := hasRun_prepared stage tokens
  by_cases haccepted : Accepted (stage.session.sort tokens).1 stage
  · have hdispatch := dispatch_of_accepted haccepted
    rcases hrequest : (stage.session.sort tokens).1.request tokens with failure | command | q
    · rw [hrequest] at hdispatch
      rw [after, hdispatch]
      refine ⟨hprepared, fun outcome last hresult => ?_⟩
      cases hresult
    · have hkept : Keeps (Stage.HasRun stage.statements) (Request.command command).run :=
        .bind (command.run_keeps (Effect.hasRun (ε := ε) stage.statements) fun _ _ _ hstage => hstage)
          fun _ => .pure _
      have hlast := hkept.holds (stage.prepared tokens) hprepared
      rw [hrequest] at hdispatch
      rw [after, hdispatch]
      refine ⟨hlast, fun outcome last hresult => ?_⟩
      exact eq_of_bind_pure hresult
    · exact absurd hrequest (h q)
  · obtain ⟨failure, hdispatch⟩ := dispatch_of_not_accepted haccepted
    rw [after, hdispatch]
    refine ⟨hprepared, fun outcome other hresult => ?_⟩
    cases hresult

/-- What a line that asks for a query executes. -/
theorem recorded_of_query {tokens : List String} {stage : Stage (Recorded ε)} {q : Query}
    (hrequest : (stage.session.sort tokens).1.request tokens = .ok (.query q)) : ∃ executed : Option String,
    (after (dispatch tokens) stage).statements = stage.statements ++ executed.toList ∧
      (∀ sql, executed = some sql ↔ ∃ kind, Executes stage tokens sql kind) ∧
      ∀ outcome last, dispatch tokens stage = .ok outcome last →
        outcome.Fits (fun sql kind => q.synthesize = .ok (sql, kind)) executed := by
  have hprepared := hasRun_prepared stage tokens
  by_cases haccepted : Accepted (stage.session.sort tokens).1 stage
  · obtain ⟨executed, hstatements, hexecuted, hfits⟩ := runQuery_recorded q (stage.prepared tokens)
    have hdispatch := dispatch_of_accepted haccepted
    rw [hrequest] at hdispatch
    rw [hprepared] at hstatements
    refine ⟨executed, ?_, fun sql => ?_, ?_⟩
    · rw [after, hdispatch]
      exact hstatements
    · rw [hexecuted]
      simp only [executes_iff hrequest, haccepted, true_and, stage.output_prepared]
    · rw [hdispatch]
      exact hfits
  · obtain ⟨failure, hdispatch⟩ := dispatch_of_not_accepted haccepted
    rw [after, hdispatch]
    refine ⟨none, by rw [Option.toList_none, List.append_nil]; exact hprepared, fun sql => ?_, ?_⟩
    · simp only [executes_iff hrequest, haccepted, false_and, exists_false, reduceCtorEq]
    · intro outcome other hresult
      cases hresult

/-- What an engine that remembers its uses has executed for a line. -/
theorem dispatch_recorded (tokens : List String) (stage : Stage (Recorded ε)) : ∃ executed : Option String,
    (after (dispatch tokens) stage).statements = stage.statements ++ executed.toList ∧
      (∀ sql, executed = some sql ↔ ∃ kind, Executes stage tokens sql kind) ∧
      (∀ outcome last, dispatch tokens stage = .ok outcome last →
        outcome.Fits (Asks stage.session tokens) executed) ∧
      ((∀ q, (stage.session.sort tokens).1.request tokens ≠ .ok (.query q)) → executed = none) ∧
      ∀ q failure, (stage.session.sort tokens).1.request tokens = .ok (.query q) →
        q.synthesize = .error failure → executed = none := by
  by_cases hquery : ∃ q, (stage.session.sort tokens).1.request tokens = .ok (.query q)
  · obtain ⟨q, hrequest⟩ := hquery
    obtain ⟨executed, hstatements, hexecuted, hfits⟩ := recorded_of_query hrequest
    refine ⟨executed, hstatements, hexecuted, fun outcome last hresult => ?_, fun hnone => ?_, ?_⟩
    · exact (hfits outcome last hresult).imp fun sql kind hsynthesize => asks_iff.mp ⟨q, hrequest, hsynthesize⟩
    · exact absurd hrequest (hnone q)
    · intro other failure hother hfails
      rw [hrequest] at hother
      cases hother
      cases executed with
      | none => rfl
      | some sql =>
        obtain ⟨kind, hexecutes⟩ := (hexecuted sql).mp rfl
        have hsynthesize := ((executes_iff hrequest).mp hexecutes).2.1
        rw [hfails] at hsynthesize
        cases hsynthesize
  · rw [not_exists] at hquery
    obtain ⟨hstatements, hcommand⟩ := recorded_of_no_query hquery
    refine ⟨none, by rw [Option.toList_none, List.append_nil]; exact hstatements, fun sql => ⟨nofun, ?_⟩,
      fun outcome last hresult => ?_, fun _ => rfl, fun _ _ _ _ => rfl⟩
    · rintro ⟨kind, hexecutes⟩
      obtain ⟨q, hrequest, -⟩ := asks_iff.mpr hexecutes.asks
      exact absurd hrequest (hquery q)
    · rw [hcommand outcome last hresult]
      exact .command

/-- The conditions on a line are the same whether the engine remembers its uses or not. -/
theorem executes_recorded {stage : Stage ε} {tokens : List String} {sql : String} {kind : QueryKind} :
    Executes stage.recorded tokens sql kind ↔ Executes stage tokens sql kind := by
  constructor
  · intro h
    exact ⟨asks_recorded.mp h.asks, h.accepted, h.runs, h.shown⟩
  · intro h
    exact ⟨asks_recorded.mpr h.asks, h.accepted, h.runs, h.shown⟩

/-- A line has at most one statement executed. It is the one that the line asks for, when all that has to
come before went well, and what the line comes to says of which kind it is. Neither a command nor a line that
is refused, for its command, its kind or its words, has anything executed. The engine may be any: what it
executes is seen when it remembers its uses, which changes nothing else. -/
theorem dispatch_executes (tokens : List String) (stage : Stage ε) : ∃ executed : Option String,
    (after (dispatch tokens) stage.recorded).statements = executed.toList ∧
      (∀ sql, executed = some sql ↔ ∃ kind, Executes stage tokens sql kind) ∧
      (∀ outcome last, dispatch tokens stage = .ok outcome last →
        outcome.Fits (Asks stage.session tokens) executed) ∧
      ((∀ q, (stage.session.sort tokens).1.request tokens ≠ .ok (.query q)) → executed = none) ∧
      ∀ q failure, (stage.session.sort tokens).1.request tokens = .ok (.query q) →
        q.synthesize = .error failure → executed = none := by
  obtain ⟨executed, hstatements, hexecuted, hfits, hrefused, hfailed⟩ := dispatch_recorded tokens stage.recorded
  refine ⟨executed, hstatements, fun sql => ?_, fun outcome last hresult => ?_, hrefused, hfailed⟩
  · rw [hexecuted]
    exact exists_congr fun kind => executes_recorded
  · obtain ⟨other, hother⟩ := exists_dispatch_recorded hresult
    exact (hfits outcome other hother).imp fun sql kind => asks_recorded.mp

/-- A stage whose engine has three rows changed by each statement. -/
def Stage.changing : Stage Scripted :=
  (Session.start Settings.initial ⟨.ok (.affected 3)⟩ none).alone

/-- Literal SQL is executed as it is, and is of the kind that its first word names in any case, or of none. With `q`
alone a statement is shown and not executed. -/
theorem dispatch_executes_literal :
    let deletion := ["\\sq", "-limit=2", "\tDelete FROM", "users"]
    let other := ["\\sq", "-pw=s", "vacuum", "-a"]
    let shown := ["users", "id==7", "-q"]
    Executes Stage.changing deletion "\tDelete FROM users" .delete ∧
      (after (dispatch deletion) Stage.changing.recorded).statements = ["\tDelete FROM users"] ∧
      result (dispatch deletion) Stage.changing = .ok (.affected .delete 3) ∧
      Executes Stage.changing other "vacuum -a" .undetermined ∧
      (after (dispatch other) Stage.changing.recorded).statements = ["vacuum -a"] ∧
      result (dispatch other) Stage.changing = .ok (.affected .undetermined 3) ∧
      Asks Stage.changing.session shown "SELECT * FROM users WHERE id = 7" .select ∧
      (after (dispatch shown) Stage.changing.recorded).statements = [] ∧
      result (dispatch shown) Stage.changing = .ok (.shown .select "SELECT * FROM users WHERE id = 7") := by
  intro deletion other shown
  have hexecuted : ∀ tokens sql kind, Executes Stage.changing tokens sql kind →
      (after (dispatch tokens) Stage.changing.recorded).statements = [sql] := by
    intro tokens sql kind hexecutes
    obtain ⟨executed, hstatements, hsome, -⟩ := dispatch_executes tokens Stage.changing
    rw [hstatements, (hsome sql).mpr ⟨kind, hexecutes⟩]
    rfl
  have hdeletionAsks : Asks Stage.changing.session deletion "\tDelete FROM users" .delete :=
    asks_iff.mp ⟨(Stage.changing.session.sort deletion).1, by decide +kernel, by decide +kernel⟩
  have hotherAsks : Asks Stage.changing.session other "vacuum -a" .undetermined :=
    asks_iff.mp ⟨(Stage.changing.session.sort other).1, by decide +kernel, by decide +kernel⟩
  have hdeletion : Executes Stage.changing deletion "\tDelete FROM users" .delete :=
    ⟨hdeletionAsks, fun _ _ => rfl, by decide +kernel, fun hshows => absurd hshows (by decide +kernel)⟩
  have hother : Executes Stage.changing other "vacuum -a" .undetermined :=
    ⟨hotherAsks, fun _ _ => rfl, by decide +kernel, fun hshows => absurd hshows (by decide +kernel)⟩
  have hshown : Asks Stage.changing.session shown "SELECT * FROM users WHERE id = 7" .select :=
    asks_iff.mp ⟨{ (Stage.changing.session.sort shown).1 with kind := some .select }, by decide +kernel,
      by decide +kernel⟩
  refine ⟨hdeletion, hexecuted _ _ _ hdeletion, by decide +kernel, hother, hexecuted _ _ _ hother,
    by decide +kernel, hshown, ?_, by decide +kernel⟩
  obtain ⟨executed, hstatements, hsome, -⟩ := dispatch_executes shown Stage.changing
  cases executed with
  | none => exact hstatements
  | some sql =>
    obtain ⟨kind, hexecutes⟩ := (hsome sql).mp rfl
    exact absurd hexecutes.runs (by decide +kernel)

end

end TerseQuery
