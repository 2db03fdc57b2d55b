import TerseQuery.Proofs.Session.SideBySide

/-!
# Engines that remember their uses

* `SessionM.Same`: an action comes to the same whether the engine remembers its uses or not;
* `Stage.corresponds_unrecorded`: forgetting the uses is a relation of stages that actions keep;
* `dispatch_same`: a line comes to the same, so that what is shown of lines with an engine that remembers holds
  with any;
* `afterLines_unrecorded`: the lines of a session do.
-/

namespace TerseQuery

variable {ε : Type}

/-- The session with the engine alone. -/
def Session.unrecorded (s : Session (Recorded ε)) : Session ε :=
  ⟨s.settings, s.registry, s.credential, s.engine.engine, s.width⟩

/-- The stage with the engine alone. -/
def Stage.unrecorded (stage : Stage (Recorded ε)) : Stage ε :=
  ⟨stage.session.unrecorded, stage.disk, stage.places, stage.output⟩

/-- The stage with an engine that remembers its uses from now on. -/
def Stage.recorded (stage : Stage ε) : Stage (Recorded ε) :=
  ⟨⟨stage.session.settings, stage.session.registry, stage.session.credential, .fresh stage.session.engine,
    stage.session.width⟩, stage.disk, stage.places, stage.output⟩

/-- Whether a stage is another one with the engine alone. -/
def Stage.Unrecorded (stage : Stage (Recorded ε)) (bare : Stage ε) : Prop :=
  bare = stage.unrecorded

namespace SessionM

/-! ## Actions -/

/-- An action with an engine that remembers its uses, and an action with the engine alone that comes to the
same. -/
structure Same {α : Type} (action : SessionM (Recorded ε) α) (bare : SessionM ε α) : Prop where
  eq : ∀ stage, bare stage.unrecorded =
    match action stage with
    | .ok value last => .ok value last.unrecorded
    | .error failure last => .error failure last.unrecorded

theorem Same.of_related {α : Type} {action : SessionM (Recorded ε) α} {bare : SessionM ε α}
    (h : Related Stage.Unrecorded Eq action bare) : Same action bare := by
  constructor
  intro stage
  have hresults := h.holds stage stage.unrecorded rfl
  generalize action stage = result, bare stage.unrecorded = other at hresults
  cases hresults with
  | ok hvalue hstage =>
    cases hvalue
    cases hstage
    rfl
  | error failure hstage =>
    cases hstage
    rfl

theorem sort_unrecorded (tokens : List String) :
    Related (Stage.Unrecorded (ε := ε)) Eq (sort tokens) (sort tokens) := by
  constructor
  rintro stage _ rfl
  exact .ok rfl rfl

end SessionM

open SessionM

/-! ## Lines -/

theorem Stage.corresponds_unrecorded : Stage.Corresponds (Stage.Unrecorded (ε := ε)) where
  settings := by rintro s _ rfl; rfl
  persistent := by rintro s _ rfl; rfl
  width := by rintro s _ rfl; rfl
  disk := by rintro s _ rfl; rfl
  places := by rintro s _ rfl; rfl
  output := by rintro s _ rfl; rfl
  written := by rintro s _ output rfl; rfl
  saved := by rintro s _ disk rfl; rfl
  option := by rintro s _ argument rfl; rfl
  unset := by rintro s _ key rfl; rfl

variable [Engine ε]

theorem Stage.configuresAlike_unrecorded : Stage.ConfiguresAlike (Stage.Unrecorded (ε := ε)) where
  answer := by rintro s _ settings rfl; rfl
  keeps := by rintro s _ settings rfl; rfl

theorem Stage.executesAlike_unrecorded : Stage.ExecutesAlike (Stage.Unrecorded (ε := ε)) where
  answer := by rintro s _ sql rfl; rfl
  keeps := by rintro s _ sql rfl; rfl

/-- A line comes to the same whether the engine remembers its uses or not. -/
theorem dispatch_same (tokens : List String) : Same (ε := ε) (dispatch tokens) (dispatch tokens) := by
  have hcorresponds := Stage.corresponds_unrecorded (ε := ε)
  refine .of_related (dispatch_related (sort_unrecorded tokens) ?_ ?_ ?_)
  · rintro q _ rfl
    refine applyCredential_related hcorresponds.toShowsAlike Stage.configuresAlike_unrecorded ?_ q.credential?_related
    rintro s _ credential _ rfl rfl
    rfl
  · rintro q _ rfl
    exact .refl Request.RunsAlike.refl (q.request tokens)
  · intro request other hrequests
    refine Request.run_related hcorresponds Stage.executesAlike_unrecorded ?_ (fun name => ?_) hrequests
    · rintro command s _ settings - - rfl
      rfl
    · refine Command.setDatabase_related hcorresponds.toShowsAlike Stage.configuresAlike_unrecorded ?_
      rintro s _ settings - rfl
      rfl

/-- What a line comes to is what it comes to with an engine that remembers. -/
theorem exists_dispatch_recorded {tokens : List String} {stage last : Stage ε} {outcome : Outcome}
    (h : dispatch tokens stage = .ok outcome last) :
    ∃ other, dispatch tokens stage.recorded = .ok outcome other := by
  have hsame : dispatch tokens stage = _ := (dispatch_same tokens).eq stage.recorded
  rw [h] at hsame
  cases hrecorded : dispatch tokens stage.recorded with
  | ok found other =>
    rw [hrecorded] at hsame
    cases hsame
    exact ⟨other, rfl⟩
  | error failure other =>
    rw [hrecorded] at hsame
    cases hsame

theorem afterLines_unrecorded (lines : List (List String)) (stage : Stage (Recorded ε)) :
    (afterLines lines stage).unrecorded = afterLines lines stage.unrecorded := by
  induction lines generalizing stage with
  | nil => rfl
  | cons tokens rest ih =>
    have hfirst : after (dispatch tokens) stage.unrecorded = (after (dispatch tokens) stage).unrecorded := by
      rw [after, after, (dispatch_same tokens).eq]
      cases dispatch tokens stage <;> rfl
    change (afterLines rest _).unrecorded = afterLines rest (after (dispatch tokens) stage.unrecorded)
    rw [ih, hfirst]

end TerseQuery
