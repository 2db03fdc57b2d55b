import TerseQuery.Proofs.Session.Execution
import TerseQuery.Proofs.Session.OptionSetting

/-!
# Outputs that fail

What a line does to anything but its output does not depend on the output. A line whose output refuses a text stops
there and says so.

* `Sink.Written`: what an output does with texts;
* `Stage.SameState`: stages that a failing output leaves alike;
* `SessionM.Quiet`: actions that write nothing;
* `SessionM.Prints`: actions that write the same texts to any output, and fail at the first that it refuses;
* `dispatch_prints`: lines do;
* `dispatch_on_bounded`: a line with an output that has an end.
-/

namespace TerseQuery

/-! ## Outputs -/

namespace Sink

theorem writeAll_append (s : Sink) (texts rest : List String) :
    s.writeAll (texts ++ rest) =
      match s.writeAll texts with
      | (longer, .ok ()) => longer.writeAll rest
      | (shorter, .error failure) => (shorter, .error failure) := by
  induction texts generalizing s with
  | nil => rfl
  | cons text texts ih =>
    rw [List.cons_append, writeAll, writeAll]
    cases s.write text with
    | ok longer => exact ih longer
    | error failure => rfl

/-- What an output does with texts: it takes them all, or those before the first that it refuses. -/
inductive Written (s : Sink) (texts : List String) : Sink × Except Failure Unit → Prop where
  | all : Written s texts ({ s with writes := s.writes ++ texts }, .ok ())
  | refused {before rest : List String} {text reason : String} (hsplit : texts = before ++ text :: rest)
      (hrefusal : s.refusal (s.writes ++ before) text = some reason) :
      Written s texts ({ s with writes := s.writes ++ before }, .error (.output reason))

theorem written (s : Sink) (texts : List String) : s.Written texts (s.writeAll texts) := by
  induction texts generalizing s with
  | nil =>
    have hall : s.Written [] ({ s with writes := s.writes ++ [] }, .ok ()) := .all
    rwa [List.append_nil] at hall
  | cons text rest ih =>
    rw [writeAll, write]
    cases hrefusal : s.refusal s.writes text with
    | some reason =>
      have hrefused : s.refusal (s.writes ++ []) text = some reason := by rwa [List.append_nil]
      have hstopped : s.Written (text :: rest) ({ s with writes := s.writes ++ [] }, .error (.output reason)) :=
        .refused rfl hrefused
      rwa [List.append_nil] at hstopped
    | none =>
      have hrest := ih { s with writes := s.writes ++ [text] }
      have hassoc : ∀ later, s.writes ++ [text] ++ later = s.writes ++ text :: later := fun later => by simp
      dsimp only
      generalize ({ s with writes := s.writes ++ [text] } : Sink).writeAll rest = found at hrest
      cases hrest with
      | all =>
        dsimp only
        rw [hassoc]
        exact .all
      | refused hsplit hrefused =>
        dsimp only at hrefused ⊢
        rw [hassoc] at hrefused ⊢
        exact .refused (by rw [hsplit, List.cons_append]) hrefused

theorem byteCount_append (texts rest : List String) :
    byteCount (texts ++ rest) = byteCount texts + byteCount rest := by
  induction texts with
  | nil => exact (Nat.zero_add _).symm
  | cons text texts ih =>
    have hcons : ∀ later, byteCount (text :: later) = text.utf8ByteSize + byteCount later := fun _ => rfl
    rw [List.cons_append, hcons, hcons, ih, Nat.add_assoc]

theorem refusal_bounded (capacity : Nat) (taken : List String) (text : String) :
    (bounded capacity).refusal taken text =
      if byteCount (taken ++ [text]) ≤ capacity then none else some "sink closed" := by
  rw [byteCount_append]
  rfl

/-- What an output with an end took does not go beyond it. -/
theorem byteCount_writeAll_bounded {capacity : Nat} (taken : List String) (h : byteCount taken ≤ capacity)
    (texts : List String) :
    byteCount (({ bounded capacity with writes := taken } : Sink).writeAll texts).1.writes ≤ capacity := by
  induction texts generalizing taken with
  | nil => exact h
  | cons text rest ih =>
    rw [writeAll, write, refusal_bounded]
    by_cases hfits : byteCount (taken ++ [text]) ≤ capacity
    · rw [if_pos hfits]
      exact ih _ hfits
    · rw [if_neg hfits]
      exact h

/-- An output with an end takes texts that fit. It is closed to one of texts that do not, after those before
it. -/
theorem writeAll_bounded (capacity : Nat) (texts : List String) :
    (byteCount texts ≤ capacity →
        (bounded capacity).writeAll texts = ({ bounded capacity with writes := texts }, .ok ())) ∧
      (capacity < byteCount texts → ∃ before rest, texts = before ++ rest ∧ byteCount before ≤ capacity ∧
        (bounded capacity).writeAll texts =
          ({ bounded capacity with writes := before }, .error (.output "sink closed"))) := by
  have hbound := byteCount_writeAll_bounded [] (Nat.zero_le capacity) texts
  have hwritten := (bounded capacity).written texts
  change byteCount ((bounded capacity).writeAll texts).1.writes ≤ capacity at hbound
  generalize (bounded capacity).writeAll texts = found at hbound hwritten
  cases hwritten with
  | all => exact ⟨fun _ => rfl, fun hmore => absurd hbound (Nat.not_le.mpr hmore)⟩
  | @refused before rest text reason hsplit hrefusal =>
    change (bounded capacity).refusal before text = some reason at hrefusal
    rw [refusal_bounded] at hrefusal
    by_cases hfits : byteCount (before ++ [text]) ≤ capacity
    · rw [if_pos hfits] at hrefusal
      cases hrefusal
    · rw [if_neg hfits] at hrefusal
      cases hrefusal
      have htexts : byteCount texts = byteCount (before ++ [text]) + byteCount rest := by
        rw [hsplit, ← byteCount_append, List.append_assoc, List.singleton_append]
      exact ⟨fun _ => by omega, fun _ => ⟨before, text :: rest, hsplit, hbound, rfl⟩⟩

end Sink

/-! ## Stages with another output -/

section
variable {ε : Type}

/-- The stage with another output. -/
def Stage.withOutput (stage : Stage ε) (output : Sink) : Stage ε :=
  { stage with output }

/-- Stages that are the same but for the output, what the engine was to run and what became of it. -/
structure Stage.SameState (s t : Stage (Recorded ε)) : Prop where
  settings : t.session.settings = s.session.settings
  registry : t.session.registry = s.session.registry
  credential : t.session.credential = s.session.credential
  width : t.session.width = s.session.width
  configurations : t.session.engine.configurations = s.session.engine.configurations
  disk : t.disk = s.disk
  places : t.places = s.places

theorem Stage.SameState.refl (stage : Stage (Recorded ε)) : stage.SameState stage :=
  ⟨rfl, rfl, rfl, rfl, rfl, rfl, rfl⟩

theorem Stage.SameState.trans {s t u : Stage (Recorded ε)} (h : s.SameState t) (hnext : t.SameState u) :
    s.SameState u where
  settings := hnext.settings.trans h.settings
  registry := hnext.registry.trans h.registry
  credential := hnext.credential.trans h.credential
  width := hnext.width.trans h.width
  configurations := hnext.configurations.trans h.configurations
  disk := hnext.disk.trans h.disk
  places := hnext.places.trans h.places

theorem Stage.SameState.symm {s t : Stage (Recorded ε)} (h : s.SameState t) : t.SameState s where
  settings := h.settings.symm
  registry := h.registry.symm
  credential := h.credential.symm
  width := h.width.symm
  configurations := h.configurations.symm
  disk := h.disk.symm
  places := h.places.symm

theorem Stage.SameState.withOutput {s t : Stage (Recorded ε)} (h : s.SameState t) (output : Sink) :
    s.SameState (t.withOutput output) := { h with }

/-! ## Actions and their output -/

namespace SessionM

variable {α β : Type}

/-- What an action comes to, with the stage that it leaves. -/
def ended (found : Except Failure α) (last : Stage ε) : EStateM.Result Failure (Stage ε) α :=
  match found with
  | .ok value => .ok value last
  | .error failure => .error failure last

theorem eq_of_eq_ended {action : SessionM ε α} {stage last : Stage ε} {found : Except Failure α}
    (h : action stage = ended found last) : result action stage = found ∧ after action stage = last := by
  rw [result, after, h]
  cases found <;> exact ⟨rfl, rfl⟩

/-- An action that writes nothing and does the same whatever the output is. -/
structure Quiet (action : SessionM ε α) : Prop where
  eq : ∀ stage output, action (stage.withOutput output) =
    ended (result action stage) ((after action stage).withOutput output)

/-- What an action writes to any output, and what it comes to if the output takes it. If the output does not, the
action fails, and but for the output and the engine it leaves the same. -/
structure Writes (action : SessionM (Recorded ε) α) (stage : Stage (Recorded ε)) (texts : List String)
    (found : Except Failure α) (last : Stage (Recorded ε)) : Prop where
  taken : ∀ output longer, output.writeAll texts = (longer, .ok ()) →
    action (stage.withOutput output) = ended found (last.withOutput longer)
  refused : ∀ output shorter failure, output.writeAll texts = (shorter, .error failure) →
    ∃ other, last.SameState other ∧ action (stage.withOutput output) = .error failure (other.withOutput shorter)

/-- An action that never changes the state leaves what its description says. -/
theorem Writes.sameState {action : SessionM (Recorded ε) α} {stage last : Stage (Recorded ε)}
    {texts : List String} {found : Except Failure α} (h : Writes action stage texts found last)
    (hkeeps : ∀ output, stage.SameState (after action (stage.withOutput output))) : stage.SameState last := by
  have hwritten := Sink.writeAll_of_accepts (s := .unbounded) (fun _ _ => rfl) texts
  have hlast := hkeeps .unbounded
  rw [after, h.taken _ _ hwritten] at hlast
  cases found with
  | ok value => exact { hlast with }
  | error failure => exact { hlast with }

/-- An action that writes the same texts to any output. -/
def Prints (action : SessionM (Recorded ε) α) : Prop :=
  ∀ stage, ∃ texts found last, Writes action stage texts found last

namespace Quiet

theorem pure (value : α) : Quiet (pure value : SessionM ε α) := ⟨fun _ _ => rfl⟩

theorem throw (failure : Failure) : Quiet (throw failure : SessionM ε α) := ⟨fun _ _ => rfl⟩

theorem ofExcept (value : Except Failure α) : Quiet (ofExcept value : SessionM ε α) := by
  cases value with
  | ok value => exact ⟨fun _ _ => rfl⟩
  | error failure => exact ⟨fun _ _ => rfl⟩

theorem modify {change : Stage ε → Stage ε}
    (h : ∀ stage output, change (stage.withOutput output) = (change stage).withOutput output) :
    Quiet (modify change : SessionM ε Unit) :=
  ⟨fun stage output => congrArg (EStateM.Result.ok ()) (h stage output)⟩

theorem session : Quiet (session : SessionM ε (Session ε)) := ⟨fun _ _ => rfl⟩

theorem settings : Quiet (settings : SessionM ε Settings) := ⟨fun _ _ => rfl⟩

theorem sort (tokens : List String) : Quiet (sort tokens : SessionM ε Query) := ⟨fun _ _ => rfl⟩

variable [Engine ε]

theorem execute (sql : String) : Quiet (execute sql : SessionM ε ResultSet) := by
  constructor
  intro stage output
  rw [result, after, execute_eq, execute_eq]
  dsimp only [Stage.withOutput]
  rcases Engine.execute sql stage.session.engine with ⟨_ | _, engine⟩ <;> rfl

theorem applyCredential (q : Query) : Quiet (applyCredential q : SessionM ε Unit) := by
  constructor
  intro stage output
  cases hcredential : q.credential? with
  | none =>
    unfold SessionM.applyCredential
    rw [hcredential]
    rfl
  | some credential =>
    rw [result, after, applyCredential_eq hcredential, applyCredential_eq hcredential]
    dsimp only [Stage.withOutput]
    rcases Engine.configure _ stage.session.engine with ⟨_ | _, engine⟩ <;> rfl

theorem setDatabase (name : String) : Quiet (Command.run (.setDatabase name) : SessionM ε Unit) := by
  constructor
  intro stage output
  rw [result, after, Command.run_setDatabase name stage rfl, Command.run_setDatabase name _ rfl]
  dsimp only [Stage.withOutput]
  rcases Engine.configure _ stage.session.engine with ⟨_ | _, engine⟩ <;> rfl

theorem setOptions (arguments : List String) : Quiet (Command.run (.setOptions arguments) : SessionM ε Unit) := by
  constructor
  intro stage output
  rw [result, after, Command.run_setOptions, Command.run_setOptions]
  cases arguments.dropWhile Command.namesOption <;> rfl

end Quiet

theorem Quiet.prints {action : SessionM (Recorded ε) α} (h : Quiet action) : Prints action := by
  intro stage
  refine ⟨[], result action stage, after action stage, ?_, ?_⟩
  · intro output longer hwritten
    cases hwritten
    exact h.eq stage output
  · intro output shorter failure hwritten
    cases hwritten

namespace Prints

theorem pure (value : α) : Prints (pure value : SessionM (Recorded ε) α) := (Quiet.pure value).prints

theorem writeLines (lines : List String) : Prints (writeLines lines : SessionM (Recorded ε) Unit) := by
  intro stage
  refine ⟨lines.map (· ++ "\n"), .ok (), stage, ?_, ?_⟩
  · intro output longer hwritten
    rw [SessionM.writeLines, writeAll_eq, show (stage.withOutput output).output = output from rfl, hwritten]
    rfl
  · intro output shorter failure hwritten
    refine ⟨stage, .refl stage, ?_⟩
    rw [SessionM.writeLines, writeAll_eq, show (stage.withOutput output).output = output from rfl, hwritten]
    rfl

theorem writeLine (line : String) : Prints (writeLine line : SessionM (Recorded ε) Unit) := writeLines [line]

/-- An action that writes nothing, then another. -/
theorem bind_quiet {action : SessionM (Recorded ε) α} {next : α → SessionM (Recorded ε) β} (h : Quiet action)
    (hnext : ∀ value, Prints (next value)) : Prints (action >>= next) := by
  intro stage
  have haction := h.eq stage
  cases hfound : result action stage with
  | error failure =>
    refine ⟨[], .error failure, after action stage, ?_, ?_⟩
    · intro output longer hwritten
      cases hwritten
      rw [bind_eq, haction, hfound]
      rfl
    · intro output shorter refusal hwritten
      cases hwritten
  | ok value =>
    obtain ⟨texts, found, last, hwrites⟩ := hnext value (after action stage)
    refine ⟨texts, found, last, ?_, ?_⟩
    · intro output longer hwritten
      rw [bind_eq, haction, hfound]
      exact hwrites.taken output longer hwritten
    · intro output shorter failure hwritten
      rw [bind_eq, haction, hfound]
      exact hwrites.refused output shorter failure hwritten

/-- An action that writes, then another that does no more than write and use the engine. If the output refuses
what the first one writes, the second one is not begun. -/
theorem bind {action : SessionM (Recorded ε) α} {next : α → SessionM (Recorded ε) β} (h : Prints action)
    (hnext : ∀ value, Prints (next value))
    (hkeeps : ∀ value stage, Keeps (fun last => Stage.SameState stage last) (next value)) :
    Prints (action >>= next) := by
  intro stage
  obtain ⟨texts, found, middle, hfirst⟩ := h stage
  cases found with
  | error failure =>
    refine ⟨texts, .error failure, middle, ?_, ?_⟩
    · intro output longer hwritten
      rw [bind_eq, hfirst.taken output longer hwritten]
      rfl
    · intro output shorter refusal hwritten
      obtain ⟨other, hother, haction⟩ := hfirst.refused output shorter refusal hwritten
      exact ⟨other, hother, by rw [bind_eq, haction]⟩
  | ok value =>
    obtain ⟨later, found, last, hsecond⟩ := hnext value middle
    have hlast : middle.SameState last := hsecond.sameState fun output =>
      (hkeeps value middle).holds (middle.withOutput output) ((Stage.SameState.refl middle).withOutput output)
    refine ⟨texts ++ later, found, last, ?_, ?_⟩
    · intro output longer hwritten
      rw [Sink.writeAll_append] at hwritten
      split at hwritten
      · rename_i output' htexts
        rw [bind_eq, hfirst.taken output output' htexts]
        exact hsecond.taken output' longer hwritten
      · cases hwritten
    · intro output shorter failure hwritten
      rw [Sink.writeAll_append] at hwritten
      split at hwritten
      · rename_i output' htexts
        rw [bind_eq, hfirst.taken output output' htexts]
        exact hsecond.refused output' shorter failure hwritten
      · rename_i output' refusal htexts
        cases hwritten
        obtain ⟨other, hother, haction⟩ := hfirst.refused output shorter failure htexts
        exact ⟨other, hlast.symm.trans hother, by rw [bind_eq, haction]⟩

/-- An action that goes on from what the stage is, but for its output. -/
theorem get_bind {next : Stage (Recorded ε) → SessionM (Recorded ε) β} (h : ∀ stage, Prints (next stage))
    (hsame : ∀ stage output, next (stage.withOutput output) = next stage) :
    Prints (get >>= next : SessionM (Recorded ε) β) := by
  intro stage
  obtain ⟨texts, found, last, hwrites⟩ := h stage stage
  have hget : ∀ output, (get >>= next : SessionM (Recorded ε) β) (stage.withOutput output) =
      next stage (stage.withOutput output) := by
    intro output
    rw [← hsame stage output]
    rfl
  refine ⟨texts, found, last, ?_, ?_⟩
  · intro output longer hwritten
    rw [hget]
    exact hwrites.taken output longer hwritten
  · intro output shorter failure hwritten
    rw [hget]
    exact hwrites.refused output shorter failure hwritten

theorem ite {p : Prop} [Decidable p] {action other : SessionM (Recorded ε) α} (h : Prints action)
    (hother : Prints other) : Prints (if p then action else other) := by
  split
  · exact h
  · exact hother

end Prints

end SessionM

end

/-! ## Lines and their output -/

open SessionM

section
variable {ε : Type}

theorem Stage.prepared_withOutput [Engine ε] (stage : Stage ε) (tokens : List String) (output : Sink) :
    (stage.withOutput output).prepared tokens = (stage.prepared tokens).withOutput output :=
  (eq_of_eq_ended ((Quiet.applyCredential (stage.session.sort tokens).1).eq
    { stage with session := (stage.session.sort tokens).2 } output)).2

theorem SessionM.present_prints (q : Query) (kind : QueryKind) (result : ResultSet) :
    Prints (present q kind result : SessionM (Recorded ε) Outcome) := by
  unfold present
  split
  · exact .bind_quiet .session fun _ => .bind (.writeLines _) (fun _ => .pure _) fun _ _ => .pure _
  · exact .bind (.writeLine _) (fun _ => .pure _) fun _ _ => .pure _

variable [Engine ε]

theorem Command.run_prints (command : Command) : Prints (command.run : SessionM (Recorded ε) Unit) := by
  cases command with
  | help => exact .bind_quiet .settings fun _ => .writeLines _
  | showTable | showFormat => exact .bind_quiet .settings fun _ => .writeLine _
  | setTable | clearTable | setFormat | unsetOption | define | forget => exact Quiet.prints ⟨fun _ _ => rfl⟩
  | setDatabase name => exact (Quiet.setDatabase name).prints
  | setOptions arguments => exact (Quiet.setOptions arguments).prints
  | showOptions => exact .bind_quiet .session fun _ => .writeLines _
  | showOption key =>
    refine .bind_quiet .session fun s => ?_
    cases s.registry.persistent.get? key with
    | some value => exact .writeLine _
    | none => exact .writeLine _
  | lookUp glossary name =>
    refine .bind_quiet .settings fun settings => ?_
    cases (settings.glossary glossary).get? name with
    | some value => exact .writeLine _
    | none => exact (Quiet.throw _).prints
  | save path =>
    -- the file is written before the line that says so
    refine .get_bind (fun stage => ?_) fun _ _ => by dsimp only [Stage.withOutput]
    dsimp only
    generalize stage.session.settings.save stage.disk (path.getD stage.places.localFile) = saved
    exact .bind_quiet (.modify fun _ _ => rfl) fun _ => .bind_quiet (.ofExcept _) fun _ => .writeLine _

theorem SessionM.perform_prints (q : Query) (sql : String) (kind : QueryKind) :
    Prints (perform q sql kind : SessionM (Recorded ε) Outcome) :=
  .ite (.bind_quiet (.execute sql) fun result => present_prints q kind result) (.pure _)

/-- A query prints its statement before it has it executed, so the two may not both happen. -/
theorem SessionM.runQuery_prints (q : Query) : Prints (runQuery q : SessionM (Recorded ε) Outcome) := by
  refine .bind_quiet (.ofExcept _) fun (sql, kind) => ?_
  have hperform := perform_prints (ε := ε) q sql kind
  refine .ite (.bind (.writeLine sql) (fun _ => hperform) fun _ stage => ?_) hperform
  exact perform_keeps (fun _ _ h => { h with }) (fun _ _ h => { h with }) q sql kind

theorem dispatch_prints (tokens : List String) : Prints (dispatch tokens : SessionM (Recorded ε) Outcome) := by
  refine .bind_quiet (.sort tokens) fun q => .bind_quiet (.applyCredential q) fun _ => ?_
  refine .bind_quiet (.ofExcept _) fun request => ?_
  cases request with
  | command command => exact .bind command.run_prints (fun _ => .pure _) fun _ _ => .pure _
  | query q => exact runQuery_prints q

/-- What a line does with an output that has an end, and with one that has none. But for the output and the
statements of the engine it leaves the same. If all that it writes fits, it comes to the same. If not, it fails with
the refusal of the output, and the output took the beginning of what the line writes. -/
theorem dispatch_on_bounded (tokens : List String) (stage : Stage ε) (capacity : Nat) :
    let full := stage.recorded.withOutput .unbounded
    let short := stage.recorded.withOutput (.bounded capacity)
    let texts := (after (dispatch tokens) full).output.writes
    (after (dispatch tokens) full).SameState (after (dispatch tokens) short) ∧
      (Sink.byteCount texts ≤ capacity →
        result (dispatch tokens) short = result (dispatch tokens) full ∧
          (after (dispatch tokens) short).output.writes = texts) ∧
      (capacity < Sink.byteCount texts → result (dispatch tokens) short = .error (.output "sink closed")) ∧
      (∃ rest, texts = (after (dispatch tokens) short).output.writes ++ rest) ∧
      Sink.byteCount (after (dispatch tokens) short).output.writes ≤ capacity := by
  intro full short texts
  obtain ⟨printed, found, last, hwrites⟩ := dispatch_prints tokens stage.recorded
  have hfull : dispatch tokens full = ended found _ :=
    hwrites.taken _ _ (Sink.writeAll_of_accepts (fun _ _ => rfl) printed)
  obtain ⟨hfound, hlast⟩ := eq_of_eq_ended hfull
  have htexts : texts = printed := congrArg (fun last => last.output.writes) hlast
  obtain ⟨hfits, hcloses⟩ := Sink.writeAll_bounded capacity printed
  rw [htexts, hfound, hlast]
  rcases Nat.lt_or_ge capacity (Sink.byteCount printed) with hmore | hless
  · obtain ⟨before, rest, hsplit, hbefore, hclosed⟩ := hcloses hmore
    obtain ⟨other, hother, hshort⟩ := hwrites.refused _ _ _ hclosed
    have hended : dispatch tokens short = ended (.error (.output "sink closed")) _ := hshort
    obtain ⟨hrefused, hshorter⟩ := eq_of_eq_ended hended
    rw [hrefused, hshorter]
    refine ⟨?_, fun hless => absurd hmore (Nat.not_lt.mpr hless), fun _ => rfl, ⟨rest, hsplit⟩, hbefore⟩
    exact { hother with }
  · have hended : dispatch tokens short = ended found _ := hwrites.taken _ _ (hfits hless)
    obtain ⟨hsame, hshorter⟩ := eq_of_eq_ended hended
    rw [hsame, hshorter]
    refine ⟨?_, fun _ => ⟨rfl, rfl⟩, fun hmore => absurd hless (Nat.not_le.mpr hmore), ⟨[], ?_⟩, hless⟩
    · exact { Stage.SameState.refl last with }
    · exact (List.append_nil printed).symm

end

end TerseQuery
