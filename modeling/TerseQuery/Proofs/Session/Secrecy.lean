import TerseQuery.Proofs.Engine.Uses
import TerseQuery.Proofs.Query.Passwords
import TerseQuery.Proofs.Session.Connection
import TerseQuery.Proofs.Session.Recording

/-!
# Passwords are not shown

The same lines are run twice, with one password in their options and with another one. Nothing that is shown,
executed or saved tells which, if the engine does not.

* `Engine.AnswersAlike`: the answers of an engine do not depend on which of two passwords it is given;
* `Stage.SameButPassword`: two stages differ in the password only where a session keeps it;
* `dispatch_withPassword`: a line with either password comes to the same;
* `passwords_do_not_show`: lines one after the other do;
* `SqliteEngine.answersAlike`: the engine for SQLite does not show passwords.
-/

namespace TerseQuery

open SessionM

/-! ## Engines and passwords -/

namespace Settings

/-- The settings with a password to connect with. -/
def withPassword (s : Settings) (password : String) : Settings :=
  { s with connection := { s.connection with password := some password } }

/-- The same settings, or settings with one of two passwords here and with the other there. -/
inductive SameButPassword (x y : String) : Settings → Settings → Prop where
  | same (s : Settings) : SameButPassword x y s s
  | passwords (s : Settings) : SameButPassword x y (s.withPassword x) (s.withPassword y)

end Settings

namespace Engine

/-- The same use, but for the password in settings. -/
inductive Use.SameButPassword (x y : String) : Use → Use → Prop where
  | configure {settings other : Settings} (h : settings.SameButPassword x y other) :
      SameButPassword x y (.configure settings) (.configure other)
  | execute (sql : String) : SameButPassword x y (.execute sql) (.execute sql)

variable {ε : Type} [Engine ε]

/-- What an engine answers to uses of it, the first one first. -/
def answers : List Use → ε → List (Except Failure Unit ⊕ Except Failure ResultSet)
  | [], _ => []
  | .configure settings :: rest, e =>
    .inl (Engine.configure settings e).1 :: answers rest (Engine.configure settings e).2
  | .execute sql :: rest, e => .inr (Engine.execute sql e).1 :: answers rest (Engine.execute sql e).2

/-- Engines that give the same answers, whichever of two passwords one and the other is given. -/
def AnswersAlike (x y : String) (e other : ε) : Prop :=
  ∀ uses uses', List.Forall₂ (Use.SameButPassword x y) uses uses' → answers uses' other = answers uses e

namespace AnswersAlike

variable {x y : String} {e other : ε}

theorem configure (h : AnswersAlike x y e other) {settings settings' : Settings}
    (hsettings : settings.SameButPassword x y settings') :
    (Engine.configure settings' other).1 = (Engine.configure settings e).1 ∧
      AnswersAlike x y (Engine.configure settings e).2 (Engine.configure settings' other).2 := by
  have hanswers : ∀ uses uses', List.Forall₂ (Use.SameButPassword x y) uses uses' →
      answers (.configure settings' :: uses') other = answers (.configure settings :: uses) e :=
    fun uses uses' huses => h _ _ (.cons (.configure hsettings) huses)
  constructor
  · have hfirst := (List.cons.inj (hanswers [] [] .nil)).1
    exact Sum.inl.inj hfirst
  · exact fun uses uses' huses => (List.cons.inj (hanswers uses uses' huses)).2

theorem execute (h : AnswersAlike x y e other) (sql : String) :
    (Engine.execute sql other).1 = (Engine.execute sql e).1 ∧
      AnswersAlike x y (Engine.execute sql e).2 (Engine.execute sql other).2 := by
  have hanswers : ∀ uses uses', List.Forall₂ (Use.SameButPassword x y) uses uses' →
      answers (.execute sql :: uses') other = answers (.execute sql :: uses) e :=
    fun uses uses' huses => h _ _ (.cons (.execute sql) huses)
  constructor
  · have hfirst := (List.cons.inj (hanswers [] [] .nil)).1
    exact Sum.inr.inj hfirst
  · exact fun uses uses' huses => (List.cons.inj (hanswers uses uses' huses)).2

end AnswersAlike

/-- An engine that takes up settings as if they had no password answers alike. -/
theorem answersAlike_of_configure {x y : String}
    (h : ∀ settings settings' (e : ε), settings.SameButPassword x y settings' →
      Engine.configure settings' e = Engine.configure settings e) (e : ε) : AnswersAlike x y e e := by
  intro uses uses' huses
  induction huses generalizing e with
  | nil => rfl
  | cons huse hrest ih =>
    cases huse with
    | configure hsettings =>
      rw [answers, answers, h _ _ e hsettings, ih]
    | execute sql => rw [answers, answers, ih]

end Engine

/-! ## Stages that differ in a password -/

/-- Stages that are the same but for the password: in the options of the last line, in the password in force and
in what the engine was given. -/
structure Stage.SameButPassword {ε : Type} [Engine ε] (x y : String) (s t : Stage (Recorded ε)) : Prop where
  settings : t.session.settings = s.session.settings
  registry : OptionRegistry.SameBut Credential.optionKey (.text x) (.text y) s.session.registry t.session.registry
  credential : SameBut (some (.supplied x)) (some (.supplied y)) s.session.credential t.session.credential
  width : t.session.width = s.session.width
  disk : t.disk = s.disk
  places : t.places = s.places
  output : t.output = s.output
  statements : t.session.engine.statements = s.session.engine.statements
  configurations : List.Forall₂ (fun given other => given.1.SameButPassword x y other.1)
    s.session.engine.configurations t.session.engine.configurations
  engine : Engine.AnswersAlike x y s.session.engine.engine t.session.engine.engine

namespace Stage.SameButPassword

variable {ε : Type} [Engine ε] {x y : String} {s t : Stage (Recorded ε)}

section
variable (h : s.SameButPassword x y t)
include h

theorem withOutput (output : Sink) : SameButPassword x y { s with output } { t with output } :=
  { h with output := rfl }

theorem withDisk (disk : Disk) : SameButPassword x y { s with disk } { t with disk } :=
  { h with disk := rfl }

theorem withSettings (settings : Settings) : (s.withSettings settings).SameButPassword x y (t.withSettings settings) :=
  { h with settings := rfl }

theorem withRegistry {registry registry' : OptionRegistry}
    (hregistry : OptionRegistry.SameBut Credential.optionKey (.text x) (.text y) registry registry') :
    (s.withRegistry registry).SameButPassword x y (t.withRegistry registry') :=
  { h with registry := hregistry }

theorem withCredential {credential other : Credential}
    (hcredential : SameBut (.supplied x) (.supplied y) credential other) :
    SameButPassword x y { s with session := { s.session with credential := some credential } }
      { t with session := { t.session with credential := some other } } :=
  { h with credential := hcredential.map some }

/-- What the engine is given differs in the password at most. -/
theorem forEngine (settings : Settings) :
    (s.session.forEngine settings).SameButPassword x y (t.session.forEngine settings) := by
  have hcredential := h.credential
  rw [Session.forEngine, Session.forEngine]
  generalize s.session.credential = credential, t.session.credential = other at hcredential
  cases hcredential with
  | same => exact .same _
  | named => exact .passwords settings

theorem configure (settings : Settings) :
    (Engine.configure (t.session.forEngine settings) t.session.engine).1 =
        (Engine.configure (s.session.forEngine settings) s.session.engine).1 ∧
      (s.withEngine (Engine.configure (s.session.forEngine settings) s.session.engine).2).SameButPassword x y
        (t.withEngine (Engine.configure (t.session.forEngine settings) t.session.engine).2) := by
  have hgiven := h.forEngine settings
  obtain ⟨hanswer, halike⟩ := h.engine.configure hgiven
  refine ⟨hanswer, { h with configurations := ?_, engine := halike }⟩
  exact List.rel_append h.configurations (.cons hgiven .nil)

theorem execute (sql : String) :
    (Engine.execute sql t.session.engine).1 = (Engine.execute sql s.session.engine).1 ∧
      (s.withEngine (Engine.execute sql s.session.engine).2).SameButPassword x y
        (t.withEngine (Engine.execute sql t.session.engine).2) := by
  obtain ⟨hanswer, halike⟩ := h.engine.execute sql
  exact ⟨hanswer, { h with statements := congrArg (· ++ [sql]) h.statements, engine := halike }⟩

end

end Stage.SameButPassword

/-! ## Lines -/

/-- Stages that are the same but for the password, and on which commands are marked in one way. -/
structure Stage.AlikeUnder {ε : Type} [Engine ε] (x y leader : String) (s t : Stage (Recorded ε)) : Prop where
  alike : s.SameButPassword x y t
  leader_eq : s.session.settings.leader = leader

section
variable {ε : Type} [Engine ε] {x y leader : String}

namespace Stage

theorem AlikeUnder.withRegistry {s t : Stage (Recorded ε)} (h : AlikeUnder x y leader s t)
    {registry registry' : OptionRegistry}
    (hregistry : OptionRegistry.SameBut Credential.optionKey (.text x) (.text y) registry registry') :
    AlikeUnder x y leader (s.withRegistry registry) (t.withRegistry registry') :=
  ⟨h.alike.withRegistry hregistry, h.leader_eq⟩

theorem AlikeUnder.withSettings {s t : Stage (Recorded ε)} {command : Command} {settings : Settings}
    (hchanges : command.Changes s.session.settings settings) (h : AlikeUnder x y leader s t) :
    AlikeUnder x y leader (s.withSettings settings) (t.withSettings settings) :=
  ⟨h.alike.withSettings settings, hchanges.leader_eq.trans h.leader_eq⟩

theorem corresponds_alikeUnder : Corresponds (AlikeUnder (ε := ε) x y leader) where
  settings _ _ h := h.alike.settings
  persistent _ _ h := h.alike.registry.persistent
  width _ _ h := h.alike.width
  disk _ _ h := h.alike.disk
  places _ _ h := h.alike.places
  output _ _ h := h.alike.output
  written _ _ output h := ⟨h.alike.withOutput output, h.leader_eq⟩
  saved _ _ disk h := ⟨h.alike.withDisk disk, h.leader_eq⟩
  option _ _ argument h := h.withRegistry (h.alike.registry.setPersistent argument)
  unset _ _ key h := h.withRegistry (h.alike.registry.unsetPersistent key)

theorem configuresAlike_alikeUnder : ConfiguresAlike (AlikeUnder (ε := ε) x y leader) where
  answer _ _ settings h := (h.alike.configure settings).1
  keeps _ _ settings h := ⟨(h.alike.configure settings).2, h.leader_eq⟩

theorem executesAlike_alikeUnder : ExecutesAlike (AlikeUnder (ε := ε) x y leader) where
  answer _ _ sql h := (h.alike.execute sql).1
  keeps _ _ sql h := ⟨(h.alike.execute sql).2, h.leader_eq⟩

end Stage

variable (hleader : leader.toList.head? ≠ some '-')
include hleader

/-- A line with either password is sorted alike. -/
theorem sort_withPassword (tokens : List String) :
    Related (Stage.AlikeUnder (ε := ε) x y leader) (Query.SameButPassword x y)
      (sort (Sorting.withPassword leader x tokens)) (sort (Sorting.withPassword leader y tokens)) := by
  constructor
  rintro s t h
  obtain ⟨hqueries, hregistries⟩ := Sorting.sameButPassword_sortLine hleader x y s.session.settings.table
    s.session.registry.clearTransient tokens
  rw [sort_eq, sort_eq, h.alike.settings, h.alike.registry.clearTransient, h.leader_eq]
  exact .ok hqueries (h.withRegistry hregistries)

/-- A line with either password comes to the same, and leaves stages that differ in the password at most. -/
theorem dispatch_withPassword (hx : x ≠ "" ∧ x ≠ Credential.emptySign) (hy : y ≠ "" ∧ y ≠ Credential.emptySign)
    (tokens : List String) :
    Related (Stage.AlikeUnder (ε := ε) x y leader) Eq (dispatch (Sorting.withPassword leader x tokens))
      (dispatch (Sorting.withPassword leader y tokens)) := by
  have hR : Stage.Corresponds (Stage.AlikeUnder (ε := ε) x y leader) := Stage.corresponds_alikeUnder
  refine dispatch_related (sort_withPassword hleader tokens) ?_ ?_ ?_
  · intro q q' halike
    refine applyCredential_related hR.toShowsAlike Stage.configuresAlike_alikeUnder ?_ (halike.credential? hx hy)
    intro s t credential other hcredential h
    exact ⟨h.alike.withCredential hcredential, h.leader_eq⟩
  · intro q q' halike
    refine halike.request ?_
    rw [Sorting.commandArguments_withPassword hleader, Sorting.commandArguments_withPassword hleader]
  · intro request other hrequests
    refine Request.run_related hR Stage.executesAlike_alikeUnder ?_ (fun name => ?_) hrequests
    · exact fun command s t settings hchanges _ => .withSettings hchanges
    · refine Command.setDatabase_related hR.toShowsAlike Stage.configuresAlike_alikeUnder ?_
      exact fun s t settings hchanges => .withSettings hchanges

end

theorem Stage.SameButPassword.refl {ε : Type} [Engine ε] {x y : String} {stage : Stage ε}
    (hengine : Engine.AnswersAlike x y stage.session.engine stage.session.engine) :
    stage.recorded.SameButPassword x y stage.recorded where
  settings := rfl
  registry := .refl _
  credential := .same _
  width := rfl
  disk := rfl
  places := rfl
  output := rfl
  statements := rfl
  configurations := .nil
  engine := hengine

/-- Passwords are not shown. The same lines are run with one password and with another one in their options, on an
engine whose answers do not depend on it. Each line comes to the same result, and after each line the stages
differ in the password at most: the output, the statements that were executed, the files, the settings and the
persistent options are equal. -/
theorem passwords_do_not_show {ε : Type} [Engine ε] (stage : Stage ε) (x y : String) (lines : List (List String))
    (hleader : stage.session.settings.leader.toList.head? ≠ some '-')
    (hx : x ≠ "" ∧ x ≠ Credential.emptySign) (hy : y ≠ "" ∧ y ≠ Credential.emptySign)
    (hengine : Engine.AnswersAlike x y stage.session.engine stage.session.engine) :
    List.Forall₂ (ResultsRelated (Stage.SameButPassword x y) Eq)
        (transcript (lines.map (Sorting.withPassword stage.session.settings.leader x)) stage.recorded)
        (transcript (lines.map (Sorting.withPassword stage.session.settings.leader y)) stage.recorded) ∧
      (afterLines (lines.map (Sorting.withPassword stage.session.settings.leader x)) stage.recorded).SameButPassword
        x y (afterLines (lines.map (Sorting.withPassword stage.session.settings.leader y)) stage.recorded) := by
  have hbegins : Stage.AlikeUnder x y stage.session.settings.leader stage.recorded stage.recorded :=
    ⟨.refl hengine, rfl⟩
  obtain ⟨hresults, hlast⟩ := transcript_related (dispatch_withPassword hleader hx hy) lines hbegins
  exact ⟨hresults.imp fun _ _ hresult => hresult.imp fun _ _ => Stage.AlikeUnder.alike, hlast.alike⟩

/-- The engine for SQLite takes up settings as if they had no password. -/
theorem SqliteEngine.answersAlike (x y : String) (e : SqliteEngine) : Engine.AnswersAlike x y e e := by
  refine Engine.answersAlike_of_configure (fun settings settings' e h => ?_) e
  cases h with
  | same => rfl
  | passwords settings =>
    have hpath : pathOf (settings.withPassword y) = pathOf (settings.withPassword x) := rfl
    rw [configure_eq, configure_eq, hpath]

/-- Lines that give passwords to a command and to a query, and lines that look for them. -/
def secretLines : List (List String) :=
  [["\\db", "b", "-pw=old"], ["\\get", "pw"], ["users", "id>3", "--pw="], ["\\save", "kept.json"]]

theorem passwords_do_not_show_sqlite :
    secretLines.map (Sorting.withPassword "\\" "alpha") =
        [["\\db", "b", "-pw=alpha"], ["\\get", "pw"], ["users", "id>3", "--pw=alpha"], ["\\save", "kept.json"]] ∧
      List.Forall₂ (ResultsRelated (Stage.SameButPassword "alpha" "b=c") Eq)
        (transcript (secretLines.map (Sorting.withPassword "\\" "alpha")) Stage.sqlite.recorded)
        (transcript (secretLines.map (Sorting.withPassword "\\" "b=c")) Stage.sqlite.recorded) ∧
      (afterLines (secretLines.map (Sorting.withPassword "\\" "alpha")) Stage.sqlite.recorded).SameButPassword
        "alpha" "b=c" (afterLines (secretLines.map (Sorting.withPassword "\\" "b=c")) Stage.sqlite.recorded) := by
  have hlines : secretLines.map (Sorting.withPassword "\\" "alpha") =
      [["\\db", "b", "-pw=alpha"], ["\\get", "pw"], ["users", "id>3", "--pw=alpha"], ["\\save", "kept.json"]] := by
    decide +kernel
  exact ⟨hlines, passwords_do_not_show Stage.sqlite "alpha" "b=c" secretLines (by decide) (by decide) (by decide)
    (SqliteEngine.answersAlike _ _ _)⟩

end TerseQuery
