import TerseQuery.Proofs.Session.Invariants

/-!
# Registries of sessions

* `dispatch_keeps_reachable`: no line leads to options that operations on a registry do not lead to;
* `session_reachable`: the same for all lines of a session.
-/

namespace TerseQuery

namespace OptionRegistry

theorem Reachable.unset {r : OptionRegistry} (h : r.Reachable) (key : String) (scope : Scope) :
    (r.unset key scope).Reachable := by
  have hasked : (RegistryOp.unset key scope).IsAsked := trivial
  exact h.apply hasked

theorem Reachable.clearTransient {r : OptionRegistry} (h : r.Reachable) : r.clearTransient.Reachable := by
  have hasked : RegistryOp.clearTransient.IsAsked := trivial
  exact h.apply hasked

theorem Reachable.seed {r seeded : OptionRegistry} (h : r.Reachable) {format : DisplayMode}
    {runMode : RunMode} {extra : Option String} (hseed : r.seed format runMode extra = .ok seeded) :
    seeded.Reachable := by
  have happly : r.apply (.seed format runMode extra) = seeded := by
    rw [OptionRegistry.apply, hseed]
  rw [← happly]
  exact h.apply trivial

theorem Reachable.sortLine {r : OptionRegistry} (h : r.Reachable) (leader : String)
    (activeTable : Option String) (tokens : List String) :
    (sortLine leader activeTable r tokens).2.Reachable := by
  rw [Sorting.registry_sortLine]
  exact h.setTokens _

end OptionRegistry

/-- The options on a stage are those of a registry that can be reached. -/
def Stage.Reachable {ε : Type} (stage : Stage ε) : Prop :=
  stage.session.registry.Reachable

theorem Session.start_reachable {ε : Type} (settings : Settings) (engine : ε) (width : TerminalWidth) :
    (Session.start settings engine width).registry.Reachable :=
  OptionRegistry.reachable_fresh

theorem Session.exists_of_seed {ε : Type} {s seeded : Session ε} {extra : Option String}
    (h : s.seed extra = .ok seeded) :
    ∃ registry, s.registry.seed s.settings.format s.settings.runMode extra = .ok registry ∧
      { s with registry } = seeded := by
  unfold Session.seed at h
  cases hregistry : s.registry.seed s.settings.format s.settings.runMode extra with
  | error failure =>
    rw [hregistry] at h
    cases h
  | ok registry =>
    rw [hregistry] at h
    cases h
    exact ⟨registry, rfl, rfl⟩

theorem Session.seed_reachable {ε : Type} {s seeded : Session ε} (h : s.registry.Reachable)
    {extra : Option String} (hseed : s.seed extra = .ok seeded) : seeded.registry.Reachable := by
  obtain ⟨registry, hregistry, rfl⟩ := exists_of_seed hseed
  exact h.seed hregistry

variable {ε : Type} [Engine ε]

theorem Effect.reachable {stage next : Stage ε} (h : Effect stage next) (hstage : stage.Reachable) :
    next.Reachable := by
  cases h with
  | sorted tokens => exact hstage.clearTransient.sortLine _ _ _
  | option argument => exact hstage.set_of_parseOption (Prod.eta _).symm .persistent
  | unset key => exact OptionRegistry.Reachable.unset hstage key .persistent
  | _ => exact hstage

/-- No line leads to options that operations on a registry do not lead to. -/
theorem dispatch_keeps_reachable (tokens : List String) :
    SessionM.Keeps (ε := ε) Stage.Reachable (dispatch tokens) :=
  dispatch_keeps (fun _ _ => Effect.reachable) (fun _ _ _ _ hstage => hstage) (fun _ _ hstage => hstage) tokens

/-- The options of a session, from its beginning on, are those of a registry that can be reached. -/
theorem session_reachable (settings : Settings) (engine : ε) (width : TerminalWidth)
    (extra : Option String) (disk : Disk) (places : SettingsPlaces) (output : Sink)
    (lines : List (List String)) {s : Session ε}
    (h : (Session.start settings engine width).seed extra = .ok s) :
    (afterLines lines ⟨s, disk, places, output⟩).Reachable :=
  afterLines_keeps dispatch_keeps_reachable lines
    (Session.seed_reachable (Session.start_reachable settings engine width) h)

end TerseQuery
