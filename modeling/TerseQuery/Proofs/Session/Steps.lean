import TerseQuery.Proofs.Query.Placement
import TerseQuery.Session.Dispatch

/-!
# What actions come to

The stage after each use of the engine and the output, and after a line as a whole.

* `SessionM.configure_eq`, `SessionM.execute_eq`, `SessionM.writeAll_eq`: the engine and the output are what
  they became, whether the action fails or not;
* `Session.broughtPassword?_eq`: the password of a line is read off its options;
* `SessionM.applyCredential_eq`: the password of a line is in force then, whether the engine accepts it or not;
* `Command.run_setDatabase`: a new database stays only if the engine accepts it;
* `dispatch_eq`: a line is sorted, then its password is put in force, then what it asks for is done;
* `dispatch_of_accepted`, `dispatch_of_not_accepted`: it goes on to what it asks for if the engine accepts its
  password, and fails if not.
-/

namespace TerseQuery

/-- The stage after an action, whether it fails or not. -/
def SessionM.after {ε α : Type} (action : SessionM ε α) (stage : Stage ε) : Stage ε :=
  match action stage with
  | .ok _ stage => stage
  | .error _ stage => stage

/-- What an action comes to: a value or a failure. -/
def SessionM.result {ε α : Type} (action : SessionM ε α) (stage : Stage ε) : Except Failure α :=
  match action stage with
  | .ok value _ => .ok value
  | .error failure _ => .error failure

/-- The failure that an action comes to, if it fails. -/
def SessionM.failure? {ε α : Type} (action : SessionM ε α) (stage : Stage ε) : Option Failure :=
  match action stage with
  | .ok _ _ => none
  | .error failure _ => some failure

theorem SessionM.exists_of_failure? {ε α : Type} {action : SessionM ε α} {stage : Stage ε} {failure : Failure}
    (h : action.failure? stage = some failure) : ∃ last, action stage = .error failure last := by
  rw [failure?] at h
  cases hresult : action stage with
  | ok value last =>
    rw [hresult] at h
    cases h
  | error other last =>
    rw [hresult] at h
    cases h
    exact ⟨last, rfl⟩

theorem SessionM.eq_ok_of_result {ε α : Type} {action : SessionM ε α} {stage : Stage ε} {value : α}
    (h : action.result stage = .ok value) : action stage = .ok value (action.after stage) := by
  rw [result] at h
  rw [after]
  cases hresult : action stage with
  | ok other last =>
    rw [hresult] at h
    cases h
    rfl
  | error failure last =>
    rw [hresult] at h
    cases h

theorem SessionM.bind_eq {ε α β : Type} {action : SessionM ε α} {next : α → SessionM ε β} (stage : Stage ε) :
    (action >>= next) stage =
      match action stage with
      | .ok value last => next value last
      | .error failure last => .error failure last := by
  change EStateM.bind action next stage = _
  rw [EStateM.bind]
  cases action stage <;> rfl

theorem SessionM.after_bind_pure {ε α β : Type} (action : SessionM ε α) (value : α → β) (stage : Stage ε) :
    after (action >>= fun x => pure (value x)) stage = after action stage := by
  rw [after, after, bind_eq]
  cases action stage <;> rfl

theorem SessionM.error_of_bind_pure {ε α β : Type} {action : SessionM ε α} {value : β} {failure : Failure}
    {stage last : Stage ε} (h : (action >>= fun _ => pure value) stage = .error failure last) :
    action stage = .error failure last := by
  rw [bind_eq] at h
  cases hfirst : action stage with
  | ok first middle =>
    rw [hfirst] at h
    cases h
  | error reason middle =>
    rw [hfirst] at h
    cases h
    rfl

theorem SessionM.tryCatch_eq {ε α : Type} (action : SessionM ε α) (handle : Failure → SessionM ε α)
    (stage : Stage ε) :
    (tryCatch action handle : SessionM ε α) stage =
      match action stage with
      | .ok value last => .ok value last
      | .error failure last => handle failure last := by
  change EStateM.tryCatch action handle stage = _
  rw [EStateM.tryCatch]
  cases action stage <;> rfl

section
variable {ε : Type}

/-- The stage with other settings. -/
def Stage.withSettings (stage : Stage ε) (settings : Settings) : Stage ε :=
  { stage with session := { stage.session with settings } }

/-- The stage with another engine. -/
def Stage.withEngine (stage : Stage ε) (engine : ε) : Stage ε :=
  { stage with session := { stage.session with engine } }

/-- The stage with another registry. -/
def Stage.withRegistry (stage : Stage ε) (registry : OptionRegistry) : Stage ε :=
  { stage with session := { stage.session with registry } }

/-- A session on a stage of its own, with nothing on the disk and an output without end. -/
def Session.alone (s : Session ε) : Stage ε :=
  ⟨s, .workingIn [], .ofDirectories [] [], .unbounded⟩

@[simp] theorem Stage.settings_withEngine (stage : Stage ε) (engine : ε) :
    (stage.withEngine engine).session.settings = stage.session.settings := rfl

@[simp] theorem Stage.settings_withRegistry (stage : Stage ε) (registry : OptionRegistry) :
    (stage.withRegistry registry).session.settings = stage.session.settings := rfl

@[simp] theorem Stage.registry_withRegistry (stage : Stage ε) (registry : OptionRegistry) :
    (stage.withRegistry registry).session.registry = registry := rfl

@[simp] theorem Stage.credential_withRegistry (stage : Stage ε) (registry : OptionRegistry) :
    (stage.withRegistry registry).session.credential = stage.session.credential := rfl

@[simp] theorem Stage.engine_withRegistry (stage : Stage ε) (registry : OptionRegistry) :
    (stage.withRegistry registry).session.engine = stage.session.engine := rfl

@[simp] theorem Stage.withRegistry_self (stage : Stage ε) :
    stage.withRegistry stage.session.registry = stage := rfl

@[simp] theorem Stage.withRegistry_withRegistry (stage : Stage ε) (registry other : OptionRegistry) :
    (stage.withRegistry registry).withRegistry other = stage.withRegistry other := rfl

@[simp] theorem Stage.places_withEngine (stage : Stage ε) (engine : ε) :
    (stage.withEngine engine).places = stage.places := rfl

@[simp] theorem Stage.places_withRegistry (stage : Stage ε) (registry : OptionRegistry) :
    (stage.withRegistry registry).places = stage.places := rfl

@[simp] theorem Session.settings_sort (s : Session ε) (tokens : List String) :
    (s.sort tokens).2.settings = s.settings := rfl

theorem Session.fst_sort (s : Session ε) (tokens : List String) :
    (s.sort tokens).1 =
      (sortLine s.settings.leader s.settings.table s.registry.clearTransient tokens).1 := rfl

theorem Session.registry_sort (s : Session ε) (tokens : List String) :
    (s.sort tokens).2.registry =
      Sorting.setTokens s.registry.clearTransient (Sorting.lineOptions s.settings.leader tokens) := by
  have hsorted : (s.sort tokens).2.registry =
      (sortLine s.settings.leader s.settings.table s.registry.clearTransient tokens).2 := rfl
  rw [hsorted, Sorting.registry_sortLine]

/-- The options of a line are no persistent ones. -/
theorem Session.persistent_sort (s : Session ε) (tokens : List String) :
    (s.sort tokens).2.registry.persistent = s.registry.persistent := by
  rw [registry_sort, (Sorting.setTokens_frame _ _).1]
  rfl

theorem Session.seeded_sort (s : Session ε) (tokens : List String) :
    (s.sort tokens).2.registry.seeded = s.registry.seeded := by
  rw [registry_sort, (Sorting.setTokens_frame _ _).2]
  rfl

theorem SessionM.sort_eq (tokens : List String) (stage : Stage ε) :
    sort tokens stage =
      .ok (sortLine stage.session.settings.leader stage.session.settings.table stage.session.registry.clearTransient
          tokens).1
        (stage.withRegistry (sortLine stage.session.settings.leader stage.session.settings.table
          stage.session.registry.clearTransient tokens).2) := rfl

end

/-! ## The engine and the output -/

/-- What handing settings to the engine comes to. The engine is what it became, whether it accepts them or
not. -/
theorem SessionM.configure_eq {ε : Type} [Engine ε] (settings : Settings) (stage : Stage ε) :
    configure settings stage =
      match Engine.configure (stage.session.forEngine settings) stage.session.engine with
      | (.ok (), engine) => .ok () (stage.withEngine engine)
      | (.error failure, engine) => .error failure (stage.withEngine engine) := by
  have hlast : configure settings stage =
      (ofExcept (Engine.configure (stage.session.forEngine settings) stage.session.engine).1 : SessionM ε Unit)
        (stage.withEngine (Engine.configure (stage.session.forEngine settings) stage.session.engine).2) := rfl
  rw [hlast]
  rcases Engine.configure (stage.session.forEngine settings) stage.session.engine with ⟨_ | _, engine⟩ <;> rfl

/-- What having the engine run a statement comes to. -/
theorem SessionM.execute_eq {ε : Type} [Engine ε] (sql : String) (stage : Stage ε) :
    execute sql stage =
      match Engine.execute sql stage.session.engine with
      | (.ok result, engine) => .ok result (stage.withEngine engine)
      | (.error failure, engine) => .error failure (stage.withEngine engine) := by
  have hlast : execute sql stage =
      (ofExcept (Engine.execute sql stage.session.engine).1 : SessionM ε ResultSet)
        (stage.withEngine (Engine.execute sql stage.session.engine).2) := rfl
  rw [hlast]
  rcases Engine.execute sql stage.session.engine with ⟨_ | _, engine⟩ <;> rfl

/-- What writing comes to. The output keeps what it took before a refusal. -/
theorem SessionM.writeAll_eq {ε : Type} (texts : List String) (stage : Stage ε) :
    writeAll texts stage =
      match stage.output.writeAll texts with
      | (output, .ok ()) => .ok () { stage with output }
      | (output, .error failure) => .error failure { stage with output } := by
  have hlast : writeAll texts stage =
      (ofExcept (stage.output.writeAll texts).2 : SessionM ε Unit)
        { stage with output := (stage.output.writeAll texts).1 } := rfl
  rw [hlast]
  rcases stage.output.writeAll texts with ⟨output, _ | _⟩ <;> rfl

/-! ## Passwords -/

/-- The password that a line brings: the text of `pw` among the options in effect for it, unless that is empty. A
dash stands for the empty password. -/
def Session.broughtPassword? {ε : Type} (s : Session ε) (tokens : List String) : Option String :=
  match (s.sort tokens).2.registry.effective.get? "pw" with
  | some (.text secret) => if secret = "" then none else if secret = "-" then some "" else some secret
  | _ => none

theorem Session.broughtPassword?_eq {ε : Type} (s : Session ε) (tokens : List String) :
    s.broughtPassword? tokens = (s.sort tokens).1.credential?.map Credential.password := by
  have hoptions : (s.sort tokens).2.registry.effective = (s.sort tokens).1.options := rfl
  rw [broughtPassword?, hoptions, Query.credential?, Query.optionText?, OptionMap.text?, Credential.optionKey]
  rcases (s.sort tokens).1.options.get? "pw" with _ | _ | secret
  · rfl
  · rfl
  · by_cases hempty : secret = ""
    · simp [hempty, OptionValue.text?]
    · by_cases hdash : secret = "-" <;>
        simp [hempty, hdash, OptionValue.text?, Credential.emptySign, Credential.password]

namespace SessionM

variable {ε : Type} [Engine ε]

/-- Whether the engine accepts the settings with the password of a line, if it has one. -/
def Accepted (q : Query) (stage : Stage ε) : Prop :=
  ∀ credential ∈ q.credential?, (Engine.configure { stage.session.settings with
    connection := stage.session.settings.connection.applyCredential credential } stage.session.engine).1 = .ok ()

theorem accepted_iff {tokens : List String} {stage : Stage ε} :
    Accepted (stage.session.sort tokens).1 stage ↔
      ∀ password ∈ stage.session.broughtPassword? tokens, (Engine.configure { stage.session.settings with
        connection := { stage.session.settings.connection with password := some password } }
        stage.session.engine).1 = .ok () := by
  rw [Session.broughtPassword?_eq, Accepted]
  cases (stage.session.sort tokens).1.credential? <;> simp [Connection.applyCredential]

/-- The password of a line is put in force by handing the settings with it to the engine. -/
theorem applyCredential_eq {q : Query} {credential : Credential} (h : q.credential? = some credential)
    (stage : Stage ε) :
    applyCredential q stage =
      match Engine.configure { stage.session.settings with
        connection := stage.session.settings.connection.applyCredential credential } stage.session.engine with
      | (.ok (), engine) =>
        .ok () { stage with session := { stage.session with credential := some credential, engine } }
      | (.error failure, engine) =>
        .error failure { stage with session := { stage.session with credential := some credential, engine } } := by
  unfold applyCredential
  rw [h]
  exact configure_eq stage.session.settings
    { stage with session := { stage.session with credential := some credential } }

theorem applyCredential_of_accepted {q : Query} {stage : Stage ε} (h : Accepted q stage) :
    ∃ middle, applyCredential q stage = .ok () middle := by
  cases hcredential : q.credential? with
  | none =>
    unfold applyCredential
    rw [hcredential]
    exact ⟨stage, rfl⟩
  | some credential =>
    have haccepted := h credential hcredential
    rw [applyCredential_eq hcredential]
    split
    · exact ⟨_, rfl⟩
    · rename_i failure engine hrefused
      rw [hrefused] at haccepted
      cases haccepted

theorem applyCredential_of_not_accepted {q : Query} {stage : Stage ε} (h : ¬ Accepted q stage) :
    ∃ failure last, applyCredential q stage = .error failure last := by
  cases hcredential : q.credential? with
  | none => exact absurd (fun credential hsome => by rw [hcredential] at hsome; cases hsome) h
  | some credential =>
    rw [applyCredential_eq hcredential]
    split
    · rename_i engine haccepted
      refine absurd (fun other hother => ?_) h
      rw [hcredential] at hother
      cases hother
      rw [haccepted]
    · exact ⟨_, _, rfl⟩

/-- The password of a line is in force after it is handed to the engine, also when the engine refuses it. -/
theorem exists_after_applyCredential (q : Query) (stage : Stage ε) : ∃ engine,
    after (applyCredential q) stage =
      { stage with
        session := { stage.session with credential := q.credential?.or stage.session.credential, engine } } := by
  rw [after]
  cases hcredential : q.credential? with
  | none =>
    unfold applyCredential
    rw [hcredential]
    exact ⟨stage.session.engine, rfl⟩
  | some credential =>
    rw [applyCredential_eq hcredential]
    rcases Engine.configure _ stage.session.engine with ⟨_ | _, engine⟩ <;> exact ⟨engine, rfl⟩

end SessionM

/-! ## Commands -/

/-- The settings that a command makes of some, if it changes any. -/
inductive Command.Changes (s : Settings) : Command → Settings → Prop where
  | setTable (name : String) : Changes s (.setTable name) { s with table := some name }
  | clearTable : Changes s .clearTable { s with table := none }
  | setDatabase (name : String) : Changes s (.setDatabase name) { s with database := some name }
  | setFormat (mode : DisplayMode) : Changes s (.setFormat mode) { s with format := mode }
  | define (glossary : Glossary) (name value : String) :
      Changes s (.define glossary name value) (s.modifyGlossary glossary (·.insert name value))
  | forget (glossary : Glossary) (name : String) :
      Changes s (.forget glossary name) (s.modifyGlossary glossary (·.erase name))

theorem Command.parseOption_modeKey (mode : DisplayMode) : parseOption mode.key = (mode.key, .flag) := by
  cases mode <;> decide +kernel

/-- An argument that has a key is set as a persistent option. -/
theorem Command.setOption_eq_ite {ε : Type} (argument : String) :
    (setOption argument : SessionM ε Unit) =
      if (parseOption argument).1 = "" then throw (.input (.unnamedOption argument))
      else modify fun stage => stage.withRegistry (stage.session.registry.setToken .persistent argument) := by
  unfold setOption
  simp only [OptionRegistry.setToken]
  -- which option it is does not matter, and is not to be computed
  generalize parseOption argument = option
  rfl

/-- The active database is changed if the engine accepts the settings with the new one, and is what it was
if not. -/
theorem Command.run_setDatabase {ε : Type} [Engine ε] (name : String) (stage : Stage ε) {next : Settings}
    (hnext : { stage.session.settings with database := some name } = next) :
    run (.setDatabase name) stage =
      match Engine.configure (stage.session.forEngine next) stage.session.engine with
      | (.ok (), engine) => .ok () ((stage.withEngine engine).withSettings next)
      | (.error failure, engine) => .error failure (stage.withEngine engine) := by
  have hrun : run (.setDatabase name) stage =
      (tryCatch (SessionM.configure next) fun failure => do
        SessionM.modifySettings fun s => { s with database := stage.session.settings.database }
        throw failure : SessionM ε Unit) (stage.withSettings next) := by
    rw [← hnext]
    rfl
  have hconfigure : SessionM.configure next (stage.withSettings next) =
      match Engine.configure (stage.session.forEngine next) stage.session.engine with
      | (.ok (), engine) => .ok () ((stage.withSettings next).withEngine engine)
      | (.error failure, engine) => .error failure ((stage.withSettings next).withEngine engine) :=
    SessionM.configure_eq next (stage.withSettings next)
  rw [hrun, SessionM.tryCatch_eq, hconfigure]
  rcases Engine.configure (stage.session.forEngine next) stage.session.engine with ⟨_ | _, engine⟩
  · rw [← hnext]
    rfl
  · rfl

/-! ## Lines -/

/-- A line whose command is neither the verb of a query nor that of literal SQL asks for this command. -/
theorem Query.request_of_command {q : Query} {name : String} (hname : q.foldedCommand? = some name)
    (hline : q.isQueryLine = false) (hliteral : name ≠ literalVerb) (tokens : List String) :
    q.request tokens = (Command.ofWords name (commandArguments tokens)).map .command := by
  simp only [request, hname, hline, Bool.false_eq_true, hliteral, ↓reduceIte]

/-- The statement of a query executed, if the query is run. -/
def SessionM.perform {ε : Type} [Engine ε] (q : Query) (sql : String) (kind : QueryKind) : SessionM ε Outcome :=
  if q.runs then do
    let result ← execute sql
    present q kind result
  else return .shown kind sql

/-- What is done for what a line asks for. -/
def Request.run {ε : Type} [Engine ε] : Request → SessionM ε Outcome
  | command named => do
    named.run
    return .command
  | query q => SessionM.runQuery q

/-- A line is sorted, then its password is put in force, then what it asks for is done. -/
theorem dispatch_eq {ε : Type} [Engine ε] (tokens : List String) (stage : Stage ε) :
    dispatch tokens stage =
      match SessionM.applyCredential (stage.session.sort tokens).1
        { stage with session := (stage.session.sort tokens).2 } with
      | .error failure last => .error failure last
      | .ok _ middle =>
        match (stage.session.sort tokens).1.request tokens with
        | .error failure => .error failure middle
        | .ok request => request.run middle := by
  have hsort : SessionM.sort tokens stage =
      .ok (stage.session.sort tokens).1 { stage with session := (stage.session.sort tokens).2 } := rfl
  rw [dispatch, SessionM.bind_eq, hsort]
  dsimp only
  rw [SessionM.bind_eq]
  cases SessionM.applyCredential (stage.session.sort tokens).1
    { stage with session := (stage.session.sort tokens).2 } with
  | error failure last => rfl
  | ok value middle =>
    dsimp only
    rw [SessionM.bind_eq]
    rcases (stage.session.sort tokens).1.request tokens with failure | command | q <;> rfl

/-- The stage when a line is sorted and its password, if it has one, is handed to the engine. -/
def Stage.prepared {ε : Type} [Engine ε] (stage : Stage ε) (tokens : List String) : Stage ε :=
  SessionM.after (SessionM.applyCredential (stage.session.sort tokens).1)
    { stage with session := (stage.session.sort tokens).2 }

/-- A line without password is prepared when it is sorted. -/
theorem Stage.prepared_of_credential?_eq_none {ε : Type} [Engine ε] {stage : Stage ε} {tokens : List String}
    (h : (stage.session.sort tokens).1.credential? = none) :
    stage.prepared tokens = stage.withRegistry (stage.session.sort tokens).2.registry := by
  rw [prepared]
  unfold SessionM.applyCredential
  rw [h]
  rfl

/-- Until a line does what it asks for, it changes its options, the password in force and the engine. -/
theorem Stage.exists_prepared_eq {ε : Type} [Engine ε] (stage : Stage ε) (tokens : List String) :
    ∃ engine, stage.prepared tokens =
      { stage with
        session := { stage.session with
          registry := (stage.session.sort tokens).2.registry
          credential := (stage.session.sort tokens).1.credential?.or stage.session.credential
          engine } } :=
  SessionM.exists_after_applyCredential _ _

@[simp] theorem Stage.settings_prepared {ε : Type} [Engine ε] (stage : Stage ε) (tokens : List String) :
    (stage.prepared tokens).session.settings = stage.session.settings := by
  obtain ⟨engine, hprepared⟩ := stage.exists_prepared_eq tokens
  rw [hprepared]

@[simp] theorem Stage.width_prepared {ε : Type} [Engine ε] (stage : Stage ε) (tokens : List String) :
    (stage.prepared tokens).session.width = stage.session.width := by
  obtain ⟨engine, hprepared⟩ := stage.exists_prepared_eq tokens
  rw [hprepared]

@[simp] theorem Stage.persistent_prepared {ε : Type} [Engine ε] (stage : Stage ε) (tokens : List String) :
    (stage.prepared tokens).session.registry.persistent = stage.session.registry.persistent := by
  obtain ⟨engine, hprepared⟩ := stage.exists_prepared_eq tokens
  rw [hprepared]
  exact stage.session.persistent_sort tokens

section
variable {ε : Type} [Engine ε] {tokens : List String} {stage : Stage ε}

/-- A line whose password is accepted goes on to what it asks for. -/
theorem dispatch_of_accepted (h : SessionM.Accepted (stage.session.sort tokens).1 stage) :
    dispatch tokens stage =
      match (stage.session.sort tokens).1.request tokens with
      | .error failure => .error failure (stage.prepared tokens)
      | .ok request => request.run (stage.prepared tokens) := by
  have haccepted : SessionM.Accepted (stage.session.sort tokens).1
      { stage with session := (stage.session.sort tokens).2 } := h
  obtain ⟨middle, happlied⟩ := SessionM.applyCredential_of_accepted haccepted
  rw [Stage.prepared, SessionM.after, dispatch_eq, happlied]

/-- A line whose password is not accepted fails. -/
theorem dispatch_of_not_accepted (h : ¬ SessionM.Accepted (stage.session.sort tokens).1 stage) :
    ∃ failure, dispatch tokens stage = .error failure (stage.prepared tokens) := by
  have hrefused : ¬ SessionM.Accepted (stage.session.sort tokens).1
      { stage with session := (stage.session.sort tokens).2 } := h
  obtain ⟨failure, middle, happlied⟩ := SessionM.applyCredential_of_not_accepted hrefused
  refine ⟨failure, ?_⟩
  rw [Stage.prepared, SessionM.after, dispatch_eq, happlied]

end

/-- The stage after lines that are run one after the other, the next also when one fails. -/
def afterLines {ε : Type} [Engine ε] (lines : List (List String)) (stage : Stage ε) : Stage ε :=
  lines.foldl (fun stage tokens => SessionM.after (dispatch tokens) stage) stage

end TerseQuery
