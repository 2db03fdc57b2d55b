import Mathlib.Data.List.TakeWhile
import TerseQuery.Proofs.Session.Steps

/-!
# Lines that set options

The command that sets options sets its arguments one after the other, up to the first that has no key. That one
makes the line fail, and what was set before it stays.

* `Command.run_setOptions`: what setting options comes to;
* `SettingFailed`: why a line that sets options fails, and the persistent options then;
* `persistent_of_setting_failed`: no other options are left by such a line, unless the engine refused its
  password;
* `setting_failed_changes_options`: they need not be what they were before the line.
-/

namespace TerseQuery

/-! ## Arguments set one after the other -/

/-- Whether an argument has the key of an option. -/
def Command.namesOption (argument : String) : Bool :=
  (parseOption argument).1 != ""

/-- The options with some arguments set, the first one first. -/
def OptionMap.setArguments (map : OptionMap) (arguments : List String) : OptionMap :=
  arguments.foldl (fun map argument => map.set (parseOption argument).1 (parseOption argument).2) map

/-- The registry with some arguments set as persistent options. -/
def OptionRegistry.setArguments (r : OptionRegistry) (arguments : List String) : OptionRegistry :=
  arguments.foldl (fun r argument => r.setToken .persistent argument) r

theorem OptionMap.setArguments_cons (map : OptionMap) (argument : String) (rest : List String) :
    map.setArguments (argument :: rest) =
      (map.set (parseOption argument).1 (parseOption argument).2).setArguments rest := by
  rw [setArguments, List.foldl_cons, setArguments]

theorem OptionRegistry.setArguments_cons (r : OptionRegistry) (argument : String) (rest : List String) :
    r.setArguments (argument :: rest) = (r.setToken .persistent argument).setArguments rest := by
  rw [setArguments, List.foldl_cons, setArguments]

theorem OptionRegistry.persistent_setArguments (r : OptionRegistry) (arguments : List String) :
    (r.setArguments arguments).persistent = r.persistent.setArguments arguments := by
  induction arguments generalizing r with
  | nil => rfl
  | cons argument rest ih =>
    rw [setArguments_cons, ih, setToken, set, modify, OptionMap.setArguments_cons]

namespace Command

variable {ε : Type}

theorem setOption_eq (argument : String) (stage : Stage ε) :
    setOption argument stage =
      if namesOption argument then
        .ok () (stage.withRegistry (stage.session.registry.setToken .persistent argument))
      else .error (.input (.unnamedOption argument)) stage := by
  rw [setOption_eq_ite]
  by_cases hkey : (parseOption argument).1 = ""
  · have hunnamed : namesOption argument = false := by simp [namesOption, hkey]
    rw [if_pos hkey, if_neg (by simp [hunnamed])]
    rfl
  · have hnamed : namesOption argument = true := by simp [namesOption, hkey]
    rw [if_neg hkey, if_pos hnamed]
    rfl

/-- The arguments before the first without a key are set, and that one is refused. -/
theorem run_setOptions [Engine ε] (arguments : List String) (stage : Stage ε) :
    run (.setOptions arguments) stage =
      match arguments.dropWhile namesOption with
      | [] => .ok () (stage.withRegistry (stage.session.registry.setArguments arguments))
      | unnamed :: _ => .error (.input (.unnamedOption unnamed))
          (stage.withRegistry (stage.session.registry.setArguments (arguments.takeWhile namesOption))) := by
  induction arguments generalizing stage with
  | nil => rfl
  | cons argument rest ih =>
    have hrun : run (.setOptions (argument :: rest)) stage =
        (setOption argument >>= fun _ => run (.setOptions rest)) stage := rfl
    rw [hrun, SessionM.bind_eq, setOption_eq]
    cases hnamed : namesOption argument with
    | false =>
      rw [if_neg Bool.false_ne_true, List.dropWhile_cons_of_neg (by simp [hnamed]),
        List.takeWhile_cons_of_neg (by simp [hnamed])]
      dsimp only
      rw [OptionRegistry.setArguments, List.foldl_nil, Stage.withRegistry_self]
    | true =>
      rw [if_pos rfl, List.dropWhile_cons_of_pos hnamed, List.takeWhile_cons_of_pos hnamed]
      dsimp only
      rw [ih, OptionRegistry.setArguments_cons, OptionRegistry.setArguments_cons,
        Stage.withRegistry_withRegistry, Stage.withRegistry_withRegistry, Stage.registry_withRegistry]

end Command

/-! ## Lines -/

/-- A command that sets options lacks its arguments, or sets them. -/
theorem Query.request_setOptions {q : Query} (h : q.foldedCommand? = some "set") (tokens : List String) :
    q.request tokens =
      if commandArguments tokens = [] then .error (CommandForm.lacking "set")
      else .ok (.command (.setOptions (commandArguments tokens))) := by
  have hline : q.isQueryLine = false := by
    obtain ⟨name, hname, hfolded⟩ := Option.map_eq_some_iff.mp h
    simp [isQueryLine, hname, QueryKind.ofVerb?, hfolded]
  rw [request_of_command h hline (by decide)]
  cases commandArguments tokens <;> rfl

open SessionM Command

variable {ε : Type} [Engine ε]

/-- Why a line that sets options fails, and the persistent options then: its arguments are lacking, or one of
them has no key. -/
inductive SettingFailed (persistent : OptionMap) : List String → Failure → OptionMap → Prop where
  | lacking : SettingFailed persistent [] (CommandForm.lacking "set") persistent
  | unnamed {before : List String} {argument : String} (rest : List String)
      (hbefore : ∀ earlier ∈ before, (parseOption earlier).1 ≠ "") (hargument : (parseOption argument).1 = "") :
      SettingFailed persistent (before ++ argument :: rest) (.input (.unnamedOption argument))
        (persistent.setArguments before)

theorem settingFailed_of_run {arguments : List String} {stage last : Stage ε} {failure : Failure}
    (h : run (.setOptions arguments) stage = .error failure last) :
    SettingFailed stage.session.registry.persistent arguments failure last.session.registry.persistent := by
  rw [run_setOptions] at h
  cases hrest : arguments.dropWhile namesOption with
  | nil =>
    rw [hrest] at h
    cases h
  | cons argument rest =>
    rw [hrest] at h
    cases h
    have hbefore : ∀ earlier ∈ arguments.takeWhile namesOption, (parseOption earlier).1 ≠ "" := by
      intro earlier hearlier
      simpa [namesOption] using List.mem_takeWhile_imp hearlier
    have hargument : (parseOption argument).1 = "" := by
      have hhead := List.head_dropWhile_not (p := namesOption) (l := arguments) (by simp [hrest])
      simpa [hrest, namesOption] using hhead
    have hsplit : arguments.takeWhile namesOption ++ argument :: rest = arguments := by
      rw [← hrest, List.takeWhile_append_dropWhile]
    have hfailed : SettingFailed stage.session.registry.persistent
        (arguments.takeWhile namesOption ++ argument :: rest) (.input (.unnamedOption argument))
        (stage.session.registry.persistent.setArguments (arguments.takeWhile namesOption)) :=
      .unnamed rest hbefore hargument
    rw [hsplit] at hfailed
    rw [Stage.registry_withRegistry, OptionRegistry.persistent_setArguments]
    exact hfailed

/-- A line that sets options and fails, because the engine refuses its password or because of its arguments,
keeps what it set before. Nothing is taken back, and the members of a group that were removed for another are
not put back. -/
theorem persistent_of_setting_failed {tokens : List String} {stage last : Stage ε} {failure : Failure}
    {name : String} (hcommand : (splitCommand stage.session.settings.leader tokens).1 = some name)
    (hname : Text.lower name = "set") (h : dispatch tokens stage = .error failure last) :
    (¬ Accepted (stage.session.sort tokens).1 stage ∧
        last.session.registry.persistent = stage.session.registry.persistent) ∨
      SettingFailed stage.session.registry.persistent (commandArguments tokens) failure
        last.session.registry.persistent := by
  have hfolded : (stage.session.sort tokens).1.foldedCommand? = some "set" := by
    rw [Query.foldedCommand?, Session.fst_sort, Sorting.command_sortLine, hcommand, Option.map_some, hname]
  have hprepared := stage.persistent_prepared tokens
  by_cases haccepted : Accepted (stage.session.sort tokens).1 stage
  · right
    rw [dispatch_of_accepted haccepted, Query.request_setOptions hfolded] at h
    rw [← hprepared]
    by_cases hnone : commandArguments tokens = []
    · rw [if_pos hnone] at h
      cases h
      rw [hnone]
      exact .lacking
    · rw [if_neg hnone] at h
      exact settingFailed_of_run (error_of_bind_pure h)
  · left
    obtain ⟨refusal, hdispatch⟩ := dispatch_of_not_accepted haccepted
    rw [hdispatch] at h
    cases h
    exact ⟨haccepted, hprepared⟩

/-- The first argument takes the place of the display mode that the session began with. The second has no
key. -/
theorem exists_setting_failed : ∃ (s : Session Scripted) (last : Stage Scripted),
    (Session.start Settings.initial ⟨.ok (.affected 0)⟩ none).seed none = .ok s ∧
      dispatch ["\\set", "tab", "=x"] s.alone = .error (.input (.unnamedOption "=x")) last ∧
      s.registry.persistent.contains "wrap" = true ∧
      last.session.registry.persistent.contains "wrap" = false := by
  have hline : (match (Session.start Settings.initial (⟨.ok (.affected 0)⟩ : Scripted) none).seed none with
      | .error _ => false
      | .ok s =>
        match dispatch ["\\set", "tab", "=x"] s.alone with
        | .ok _ _ => false
        | .error failure last => decide (failure = .input (.unnamedOption "=x") ∧
            s.registry.persistent.contains "wrap" = true ∧
            last.session.registry.persistent.contains "wrap" = false)) = true := by
    decide +kernel
  cases hseed : (Session.start Settings.initial (⟨.ok (.affected 0)⟩ : Scripted) none).seed none with
  | error failure =>
    rw [hseed] at hline
    cases hline
  | ok s =>
    rw [hseed] at hline
    dsimp only at hline
    cases hresult : dispatch ["\\set", "tab", "=x"] s.alone with
    | ok outcome last =>
      rw [hresult] at hline
      cases hline
    | error failure last =>
      rw [hresult] at hline
      obtain ⟨rfl, hbefore, hafter⟩ := of_decide_eq_true hline
      exact ⟨s, last, rfl, hresult, hbefore, hafter⟩

/-- The line fails, and the persistent options are not what they were. -/
theorem setting_failed_changes_options : ∃ (s : Session Scripted) (last : Stage Scripted) (failure : Failure),
    (Session.start Settings.initial ⟨.ok (.affected 0)⟩ none).seed none = .ok s ∧
      dispatch ["\\set", "tab", "=x"] s.alone = .error failure last ∧
      last.session.registry.persistent ≠ s.registry.persistent := by
  obtain ⟨s, last, hseed, hfails, hbefore, hafter⟩ := exists_setting_failed
  refine ⟨s, last, _, hseed, hfails, fun hsame => ?_⟩
  rw [hsame, hbefore] at hafter
  cases hafter

/-- They are those with the first argument set. -/
theorem persistent_of_setting_failed_grouped : ∃ (s : Session Scripted) (last : Stage Scripted),
    dispatch ["\\set", "tab", "=x"] s.alone = .error (.input (.unnamedOption "=x")) last ∧
      ((¬ Accepted (s.alone.session.sort ["\\set", "tab", "=x"]).1 s.alone ∧
          last.session.registry.persistent = s.alone.session.registry.persistent) ∨
        SettingFailed s.alone.session.registry.persistent (commandArguments ["\\set", "tab", "=x"])
          (.input (.unnamedOption "=x")) last.session.registry.persistent) := by
  obtain ⟨s, last, hseed, hfails, -, -⟩ := exists_setting_failed
  have hleader : s.settings.leader = defaultLeader := by
    cases hseed
    rfl
  have hcommand : (splitCommand s.alone.session.settings.leader ["\\set", "tab", "=x"]).1 = some "set" := by
    change (splitCommand s.settings.leader ["\\set", "tab", "=x"]).1 = some "set"
    rw [hleader]
    decide +kernel
  exact ⟨s, last, hfails, persistent_of_setting_failed hcommand (by decide +kernel) hfails⟩

end TerseQuery
