import TerseQuery.Proofs.Options.Tokens
import TerseQuery.Proofs.Session.SideBySide

/-!
# Invariants of sessions

What each step of a line keeps, whether the line fails or not, holds of a session from its beginning on.

* `SessionM.Keeps`: an action keeps a property of the stage, which is to keep the relation of a stage to itself
  where the property holds;
* `dispatch_keeps_connection`: what a session and its engine share is kept by a line if passwords, new databases
  and statements keep it;
* `Effect`, `Command.Changes`: the steps of lines other than executing a statement;
* `dispatch_keeps`: a line keeps what no step takes away.
-/

namespace TerseQuery

/-! ## Actions that keep a property -/

/-- A property of the stage that holds after an action if it held before. -/
structure SessionM.Keeps {ε α : Type} (I : Stage ε → Prop) (action : SessionM ε α) : Prop where
  holds : ∀ stage, I stage → I (after action stage)

/-- A property of one stage as a relation of the stage to itself. -/
def Stage.Diagonal {ε : Type} (I : Stage ε → Prop) (stage other : Stage ε) : Prop :=
  stage = other ∧ I stage

namespace SessionM.Keeps

variable {ε α β : Type} {I : Stage ε → Prop}

theorem of_related {V : α → α → Prop} {action : SessionM ε α}
    (h : Related (Stage.Diagonal I) V action action) : Keeps I action :=
  ⟨fun stage hstage => (h.holds stage stage ⟨rfl, hstage⟩).after.2⟩

theorem related {action : SessionM ε α} (h : Keeps I action) :
    Related (Stage.Diagonal I) Eq action action := by
  constructor
  rintro stage _ ⟨rfl, hstage⟩
  have hlast := h.holds stage hstage
  rw [after] at hlast
  cases hresult : action stage with
  | ok value last =>
    rw [hresult] at hlast
    exact .ok rfl ⟨rfl, hlast⟩
  | error failure last =>
    rw [hresult] at hlast
    exact .error failure ⟨rfl, hlast⟩

theorem pure (value : α) : Keeps I (pure value) := ⟨fun _ h => h⟩

theorem ofExcept (value : Except Failure α) : Keeps I (ofExcept value) :=
  .of_related (V := Eq) (.ofExcept (.refl (fun _ => rfl) value))

theorem bind {action : SessionM ε α} {next : α → SessionM ε β} (h : Keeps I action)
    (hnext : ∀ value, Keeps I (next value)) : Keeps I (action >>= next) :=
  .of_related (.bind_same h.related fun value => (hnext value).related)

end SessionM.Keeps

/-! ## Properties that commands and queries keep -/

section
variable {ε : Type} {I : Stage ε → Prop}

theorem Stage.showsAlike_diagonal (hwritten : ∀ stage output, I stage → I { stage with output }) :
    Stage.ShowsAlike (Stage.Diagonal I) where
  settings := by rintro s _ ⟨rfl, -⟩; rfl
  width := by rintro s _ ⟨rfl, -⟩; rfl
  output := by rintro s _ ⟨rfl, -⟩; rfl
  written := by rintro s _ output ⟨rfl, h⟩; exact ⟨rfl, hwritten s output h⟩

theorem Stage.actsAlike_diagonal (hwritten : ∀ stage output, I stage → I { stage with output })
    (hsaved : ∀ stage disk, I stage → I { stage with disk }) : Stage.ActsAlike (Stage.Diagonal I) where
  toShowsAlike := showsAlike_diagonal hwritten
  persistent := by rintro s _ ⟨rfl, -⟩; rfl
  disk := by rintro s _ ⟨rfl, -⟩; rfl
  places := by rintro s _ ⟨rfl, -⟩; rfl
  saved := by rintro s _ disk ⟨rfl, h⟩; exact ⟨rfl, hsaved s disk h⟩

/-- Writing and setting options keep a property. -/
theorem Stage.corresponds_diagonal (hwritten : ∀ stage output, I stage → I { stage with output })
    (hsaved : ∀ stage disk, I stage → I { stage with disk })
    (hoption : ∀ stage argument, I stage →
      I (stage.withRegistry (stage.session.registry.setToken .persistent argument)))
    (hunset : ∀ stage key, I stage →
      I (stage.withRegistry (stage.session.registry.unset key .persistent))) :
    Stage.Corresponds (Stage.Diagonal I) where
  toActsAlike := actsAlike_diagonal hwritten hsaved
  option := by rintro s _ argument ⟨rfl, h⟩; exact ⟨rfl, hoption s argument h⟩
  unset := by rintro s _ key ⟨rfl, h⟩; exact ⟨rfl, hunset s key h⟩

theorem SessionM.present_keeps (hwritten : ∀ stage output, I stage → I { stage with output }) (q : Query)
    (kind : QueryKind) (result : ResultSet) : Keeps I (present q kind result) :=
  .of_related (present_related (Stage.showsAlike_diagonal hwritten) (.refl q) kind result)

variable [Engine ε]

theorem Stage.executesAlike_diagonal
    (hexecute : ∀ (stage : Stage ε) sql, I stage →
      I (stage.withEngine (Engine.execute sql stage.session.engine).2)) :
    Stage.ExecutesAlike (Stage.Diagonal I) where
  answer := by rintro s _ sql ⟨rfl, -⟩; rfl
  keeps := by rintro s _ sql ⟨rfl, h⟩; exact ⟨rfl, hexecute s sql h⟩

section
variable (hwritten : ∀ stage output, I stage → I { stage with output })
variable (hexecute : ∀ (stage : Stage ε) sql, I stage →
  I (stage.withEngine (Engine.execute sql stage.session.engine).2))
include hwritten hexecute

namespace SessionM

theorem perform_keeps (q : Query) (sql : String) (kind : QueryKind) : Keeps I (perform q sql kind) :=
  .of_related (perform_related (Stage.showsAlike_diagonal hwritten) (Stage.executesAlike_diagonal hexecute)
    (.refl q) sql kind)

/-- A query writes and executes, and does nothing else. -/
theorem runQuery_keeps (q : Query) : Keeps I (runQuery q) :=
  .of_related (runQuery_related (Stage.showsAlike_diagonal hwritten) (Stage.executesAlike_diagonal hexecute)
    (.refl q))

end SessionM

end

/-- What is asked for keeps a property that writing, setting options, a new database, the changes of the other
settings and statements keep. -/
theorem Request.run_keeps (hplain : Stage.Corresponds (Stage.Diagonal I))
    (hdatabase : ∀ name, SessionM.Keeps I (Command.run (.setDatabase name)))
    (hchange : ∀ (command : Command) stage settings, command.Changes stage.session.settings settings →
      settings.database = stage.session.settings.database → I stage → I (stage.withSettings settings))
    (hexecute : ∀ (stage : Stage ε) sql, I stage →
      I (stage.withEngine (Engine.execute sql stage.session.engine).2)) (request : Request) :
    SessionM.Keeps I request.run := by
  refine .of_related (Request.run_related hplain (Stage.executesAlike_diagonal hexecute) ?_
    (fun name => (hdatabase name).related) (.refl request))
  rintro command s _ settings hchanges hsame ⟨rfl, h⟩
  exact ⟨rfl, hchange command s settings hchanges hsame h⟩

/-- A line keeps what its parts keep. -/
theorem SessionM.Keeps.dispatch {tokens : List String} (hsort : SessionM.Keeps I (SessionM.sort tokens))
    (hcredential : ∀ q, SessionM.Keeps I (SessionM.applyCredential q))
    (hrun : ∀ request : Request, SessionM.Keeps I request.run) : SessionM.Keeps I (dispatch tokens) := by
  refine .bind hsort fun q => .bind (hcredential q) fun _ => .bind (.ofExcept _) fun request => ?_
  have hlast := hrun request
  cases request with
  | command command => exact hlast
  | query q => exact hlast

end

/-! ## What a session and its engine share -/

/-- Stages that are the same in what reaches the engine when settings are handed to it, and in the engine. -/
structure Stage.SameConnection {ε : Type} (stage other : Stage ε) : Prop where
  database : other.session.settings.database = stage.session.settings.database
  connection : other.session.settings.connection = stage.session.settings.connection
  credential : other.session.credential = stage.session.credential
  engine : other.session.engine = stage.session.engine

theorem Stage.sameConnection_withRegistry {ε : Type} (stage : Stage ε) (registry : OptionRegistry) :
    stage.SameConnection (stage.withRegistry registry) := ⟨rfl, rfl, rfl, rfl⟩

theorem Command.Changes.connection_eq {s settings : Settings} {command : Command}
    (h : command.Changes s settings) : settings.connection = s.connection := by
  cases h with
  | define glossary | forget glossary => cases glossary <;> rfl
  | _ => rfl

/-- No command changes what marks a command. -/
theorem Command.Changes.leader_eq {s settings : Settings} {command : Command}
    (h : command.Changes s settings) : settings.leader = s.leader := by
  cases h with
  | define glossary | forget glossary => cases glossary <;> rfl
  | _ => rfl

section
variable {ε : Type} [Engine ε] {I : Stage ε → Prop}
variable (hsame : ∀ stage other, Stage.SameConnection stage other → I stage → I other)
include hsame

/-- Besides statements, only a new database can end a property of the connection that is asked for. -/
theorem Request.run_keeps_connection
    (hdatabase : ∀ name, SessionM.Keeps I (Command.run (.setDatabase name)))
    (hexecute : ∀ (stage : Stage ε) sql, I stage →
      I (stage.withEngine (Engine.execute sql stage.session.engine).2)) (request : Request) :
    SessionM.Keeps I request.run := by
  have hplain : Stage.Corresponds (Stage.Diagonal I) :=
    Stage.corresponds_diagonal (fun stage _ => hsame stage _ ⟨rfl, rfl, rfl, rfl⟩)
      (fun stage _ => hsame stage _ ⟨rfl, rfl, rfl, rfl⟩)
      (fun stage _ => hsame stage _ (stage.sameConnection_withRegistry _))
      fun stage _ => hsame stage _ (stage.sameConnection_withRegistry _)
  refine request.run_keeps hplain hdatabase (fun command stage settings hchanges hsettings => ?_) hexecute
  exact hsame stage _ ⟨hsettings, hchanges.connection_eq, rfl, rfl⟩

/-- A line keeps a property of the connection that passwords, new databases and statements keep. -/
theorem dispatch_keeps_connection (hcredential : ∀ q, SessionM.Keeps I (SessionM.applyCredential q))
    (hdatabase : ∀ name, SessionM.Keeps I (Command.run (.setDatabase name)))
    (hexecute : ∀ (stage : Stage ε) sql, I stage →
      I (stage.withEngine (Engine.execute sql stage.session.engine).2)) (tokens : List String) :
    SessionM.Keeps I (dispatch tokens) := by
  have hsort : SessionM.Keeps I (SessionM.sort tokens) :=
    ⟨fun stage => hsame stage _ (stage.sameConnection_withRegistry (stage.session.sort tokens).2.registry)⟩
  exact .dispatch hsort hcredential (Request.run_keeps_connection hsame hdatabase hexecute)

end

/-! ## Steps of lines -/

section
variable {ε : Type}

/-- A step that leaves the settings as they are and executes nothing. -/
inductive Effect [Engine ε] (stage : Stage ε) : Stage ε → Prop where
  | output (output : Sink) : Effect stage { stage with output }
  | disk (disk : Disk) : Effect stage { stage with disk }
  | configured (settings : Settings) : Effect stage
      (stage.withEngine (Engine.configure (stage.session.forEngine settings) stage.session.engine).2)
  | credential (credential : Credential) : Effect stage
      { stage with session := { stage.session with credential := some credential } }
  | sorted (tokens : List String) : Effect stage { stage with session := (stage.session.sort tokens).2 }
  | option (argument : String) : Effect stage (stage.withRegistry
      (stage.session.registry.set (parseOption argument).1 (parseOption argument).2 .persistent))
  | unset (key : String) : Effect stage (stage.withRegistry (stage.session.registry.unset key .persistent))

theorem Effect.settings_eq [Engine ε] {stage next : Stage ε} (h : Effect stage next) :
    next.session.settings = stage.session.settings := by
  cases h <;> simp

theorem Effect.places_eq [Engine ε] {stage next : Stage ε} (h : Effect stage next) :
    next.places = stage.places := by
  cases h <;> simp

end

/-! ## What no step takes away -/

section
variable {ε : Type} [Engine ε] {I : Stage ε → Prop}
variable (heffect : ∀ stage next, Effect stage next → I stage → I next)
include heffect

theorem Effect.corresponds : Stage.Corresponds (Stage.Diagonal I) :=
  Stage.corresponds_diagonal (fun _ output => heffect _ _ (.output output)) (fun _ disk => heffect _ _ (.disk disk))
    (fun _ argument => heffect _ _ (.option argument)) (fun _ key => heffect _ _ (.unset key))

theorem Effect.configuresAlike : Stage.ConfiguresAlike (Stage.Diagonal I) where
  answer := by rintro s _ settings ⟨rfl, -⟩; rfl
  keeps := by rintro s _ settings ⟨rfl, h⟩; exact ⟨rfl, heffect _ _ (.configured settings) h⟩

namespace SessionM

theorem sort_keeps (tokens : List String) : Keeps I (sort tokens) :=
  ⟨fun _ hstage => heffect _ _ (.sorted tokens) hstage⟩

theorem applyCredential_keeps (q : Query) : Keeps I (applyCredential q) := by
  have hshows := (Effect.corresponds heffect).toShowsAlike
  refine .of_related (applyCredential_related hshows (Effect.configuresAlike heffect) ?_
    q.credential?_related)
  rintro s _ credential _ rfl ⟨rfl, h⟩
  exact ⟨rfl, heffect _ _ (.credential credential) h⟩

end SessionM

open SessionM

theorem Command.setDatabase_keeps {name : String}
    (hchange : ∀ stage settings, Changes stage.session.settings (.setDatabase name) settings → I stage →
      I (stage.withSettings settings)) :
    Keeps I (run (.setDatabase name)) := by
  refine .of_related (setDatabase_related (Effect.corresponds heffect).toShowsAlike
    (Effect.configuresAlike heffect) ?_)
  rintro s _ settings hchanges ⟨rfl, h⟩
  exact ⟨rfl, hchange s settings hchanges h⟩

/-- A command keeps what no step and none of its own changes takes away. -/
theorem Command.run_keeps {command : Command}
    (hchange : ∀ stage settings, command.Changes stage.session.settings settings → I stage →
      I (stage.withSettings settings)) :
    Keeps I command.run := by
  have hchanges : ∀ s t settings, command.Changes s.session.settings settings →
      settings.database = s.session.settings.database → Stage.Diagonal I s t →
      Stage.Diagonal I (s.withSettings settings) (t.withSettings settings) := by
    rintro s _ settings hchanges _ ⟨rfl, h⟩
    exact ⟨rfl, hchange s settings hchanges h⟩
  refine .of_related (run_related (Effect.corresponds heffect).toActsAlike hchanges ?_ fun h =>
    options_related (Effect.corresponds heffect) h hchanges)
  rintro name rfl
  exact (setDatabase_keeps heffect hchange).related

/-- A line keeps what no step takes away. -/
theorem dispatch_keeps
    (hchange : ∀ (command : Command) stage settings, command.Changes stage.session.settings settings →
      I stage → I (stage.withSettings settings))
    (hexecute : ∀ (stage : Stage ε) sql, I stage →
      I (stage.withEngine (Engine.execute sql stage.session.engine).2)) (tokens : List String) :
    Keeps I (dispatch tokens) :=
  .dispatch (sort_keeps heffect tokens) (applyCredential_keeps heffect)
    (Request.run_keeps (Effect.corresponds heffect)
      (fun name => Command.setDatabase_keeps heffect (hchange (.setDatabase name)))
      (fun command stage settings hchanges _ => hchange command stage settings hchanges) hexecute)

end

/-! ## Lines one after the other -/

theorem afterLines_keeps {ε : Type} [Engine ε] {I : Stage ε → Prop}
    (h : ∀ tokens, SessionM.Keeps I (dispatch tokens)) (lines : List (List String)) {stage : Stage ε}
    (hstage : I stage) : I (afterLines lines stage) := by
  induction lines generalizing stage with
  | nil => exact hstage
  | cons tokens rest ih => exact ih ((h tokens).holds stage hstage)

end TerseQuery
