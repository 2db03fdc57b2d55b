import Mathlib.Data.Finset.Card
import TerseQuery.Proofs.Failure
import TerseQuery.Query.Deduction
import TerseQuery.Query.Sorting

/-!
# Agreement of indicators

The first of some indicators is compared with all others, so what comes out depends on the kinds asked for
and not on their order.

* `agree?_of_agreeing`, `agree?_of_not_agreeing`: agreement, and what a refusal names;
* `deduceKind_of_agreeing`, `deduceKind_of_not_agreeing`: the same of all indicators of a query together;
* `coded_deduceKind_perm`: the order of operators decides no more than which two are named;
* `deduceKind_agreement`: a kind is deduced exactly if no two are asked for.
-/

namespace TerseQuery

/-- All of some indicators ask for one kind. -/
def Agreeing (indicators : List Indicator) : Prop :=
  ∀ a ∈ indicators, ∀ b ∈ indicators, a.kind = b.kind

theorem agree?_of_agreeing {indicators : List Indicator} (h : Agreeing indicators) :
    agree? indicators = .ok indicators.head? := by
  cases indicators with
  | nil => rfl
  | cons first rest =>
    have hnone : rest.find? (fun other => other.kind ≠ first.kind) = none := by
      rw [List.find?_eq_none]
      intro other hother
      simpa using h other (List.mem_cons_of_mem _ hother) first List.mem_cons_self
    simp only [agree?, hnone, List.head?_cons]

/-- A refusal names two indicators that ask for different kinds. -/
theorem agree?_of_not_agreeing {indicators : List Indicator} (h : ¬ Agreeing indicators) :
    ∃ a ∈ indicators, ∃ b ∈ indicators, a.kind ≠ b.kind ∧
      agree? indicators = .error (.inconsistentKind a.label b.label) := by
  cases indicators with
  | nil => exact absurd (fun a ha => by cases ha) h
  | cons first rest =>
    cases hfind : rest.find? fun other => other.kind ≠ first.kind with
    | some other =>
      have hne : other.kind ≠ first.kind := by simpa using List.find?_some hfind
      refine ⟨first, List.mem_cons_self, other,
        List.mem_cons_of_mem _ (List.mem_of_find?_eq_some hfind), hne.symm, ?_⟩
      simp only [agree?, hfind]
    | none =>
      have hsame : ∀ a ∈ first :: rest, a.kind = first.kind := by
        intro a ha
        rcases List.mem_cons.mp ha with rfl | ha
        · rfl
        · simpa using List.find?_eq_none.mp hfind a ha
      exact absurd (fun a ha b hb => (hsame a ha).trans (hsame b hb).symm) h

/-! ## The kinds that are asked for -/

/-- The kinds that some indicators ask for. -/
def kindsOf (indicators : List Indicator) : Finset QueryKind :=
  (indicators.map Indicator.kind).toFinset

theorem mem_kindsOf {indicators : List Indicator} {kind : QueryKind} :
    kind ∈ kindsOf indicators ↔ ∃ a ∈ indicators, a.kind = kind := by
  simp [kindsOf]

theorem card_kindsOf_le_one {indicators : List Indicator} :
    (kindsOf indicators).card ≤ 1 ↔ Agreeing indicators := by
  simp only [Finset.card_le_one, mem_kindsOf, Agreeing]
  constructor
  · intro h a ha b hb
    exact h a.kind ⟨a, ha, rfl⟩ b.kind ⟨b, hb, rfl⟩
  · rintro h _ ⟨a, ha, rfl⟩ _ ⟨b, hb, rfl⟩
    exact h a ha b hb

theorem kindsOf_eq_singleton {first : Indicator} {rest : List Indicator} (h : Agreeing (first :: rest)) :
    kindsOf (first :: rest) = {first.kind} := by
  ext kind
  rw [mem_kindsOf, Finset.mem_singleton]
  constructor
  · rintro ⟨a, ha, rfl⟩
    exact h a ha first List.mem_cons_self
  · rintro rfl
    exact ⟨first, List.mem_cons_self, rfl⟩

/-- Two lists of indicators agree if each of them does and the first of one asks for what the first of the other
asks for. -/
theorem Agreeing.append {xs ys : List Indicator} (hx : Agreeing xs) (hy : Agreeing ys)
    (h : ∀ a ∈ xs.head?, ∀ b ∈ ys.head?, a.kind = b.kind) : Agreeing (xs ++ ys) := by
  have hacross : ∀ a ∈ xs, ∀ b ∈ ys, a.kind = b.kind := by
    intro a ha b hb
    cases xs with
    | nil => cases ha
    | cons x xs =>
      cases ys with
      | nil => cases hb
      | cons y ys =>
        calc a.kind = x.kind := hx a ha x List.mem_cons_self
          _ = y.kind := h x rfl y rfl
          _ = b.kind := hy y List.mem_cons_self b hb
  intro a ha b hb
  rcases List.mem_append.mp ha with ha | ha <;> rcases List.mem_append.mp hb with hb | hb
  · exact hx a ha b hb
  · exact hacross a ha b hb
  · exact (hacross b hb a ha).symm
  · exact hy a ha b hb

theorem Agreeing.of_append {xs ys : List Indicator} (h : Agreeing (xs ++ ys)) : Agreeing xs ∧ Agreeing ys :=
  ⟨fun a ha b hb => h a (List.mem_append_left _ ha) b (List.mem_append_left _ hb),
    fun a ha b hb => h a (List.mem_append_right _ ha) b (List.mem_append_right _ hb)⟩

namespace Query

/-- What is asked for by name: by the command if it is a verb, and else by flags. -/
def namedIndicators (q : Query) : List Indicator :=
  match q.commandIndicator? with
  | some indicator => [indicator]
  | none => q.flagIndicators

/-- All indicators of a query that count. -/
def indicators (q : Query) : List Indicator :=
  q.namedIndicators ++ q.operatorIndicators

theorem explicitIndicator_eq (q : Query) : q.explicitIndicator = agree? q.namedIndicators := by
  unfold explicitIndicator namedIndicators
  cases q.commandIndicator? <;> rfl

/-- Indicators that agree ask for the kind of the first of them, or for none. -/
theorem deduceKind_of_agreeing {q : Query} (h : Agreeing q.indicators) :
    q.deduceKind = .ok ((q.indicators.head?.map Indicator.kind).getD .select) := by
  obtain ⟨hnamed, himplied⟩ := h.of_append
  rw [deduceKind, explicitIndicator_eq, agree?_of_agreeing hnamed, agree?_of_agreeing himplied]
  rw [indicators] at h ⊢
  cases hn : q.namedIndicators with
  | nil =>
    cases q.operatorIndicators <;> rfl
  | cons named _ =>
    cases hi : q.operatorIndicators with
    | nil => rfl
    | cons implied _ =>
      rw [hn, hi] at h
      have hsame : named.kind = implied.kind :=
        h named List.mem_cons_self implied (List.mem_append_right _ List.mem_cons_self)
      simp [bind, Except.bind, pure, Except.pure, hsame]

/-- A refusal names two indicators that ask for different kinds. -/
theorem deduceKind_of_not_agreeing {q : Query} (h : ¬ Agreeing q.indicators) :
    ∃ a ∈ q.indicators, ∃ b ∈ q.indicators, a.kind ≠ b.kind ∧
      q.deduceKind = .error (.inconsistentKind a.label b.label) := by
  rw [deduceKind, explicitIndicator_eq]
  by_cases hnamed : Agreeing q.namedIndicators
  · by_cases himplied : Agreeing q.operatorIndicators
    · -- each list agrees in itself, so the first of one differs from the first of the other
      have hfirst : ¬ ∀ a ∈ q.namedIndicators.head?, ∀ b ∈ q.operatorIndicators.head?, a.kind = b.kind :=
        fun hfirst => h (hnamed.append himplied hfirst)
      simp only [not_forall] at hfirst
      obtain ⟨a, ha, b, hb, hkinds⟩ := hfirst
      refine ⟨a, List.mem_append_left _ (List.mem_of_mem_head? ha), b,
        List.mem_append_right _ (List.mem_of_mem_head? hb), hkinds, ?_⟩
      rw [agree?_of_agreeing hnamed, agree?_of_agreeing himplied, Option.mem_def.mp ha, Option.mem_def.mp hb]
      simp [bind, Except.bind, throw, throwThe, MonadExceptOf.throw, hkinds]
    · obtain ⟨a, ha, b, hb, hkinds, herror⟩ := agree?_of_not_agreeing himplied
      refine ⟨a, List.mem_append_right _ ha, b, List.mem_append_right _ hb, hkinds, ?_⟩
      rw [agree?_of_agreeing hnamed, herror]
      rfl
  · obtain ⟨a, ha, b, hb, hkinds, herror⟩ := agree?_of_not_agreeing hnamed
    refine ⟨a, List.mem_append_left _ ha, b, List.mem_append_left _ hb, hkinds, ?_⟩
    rw [herror]
    rfl

theorem exists_deduceKind_iff (q : Query) : (∃ kind, q.deduceKind = .ok kind) ↔ Agreeing q.indicators := by
  constructor
  · rintro ⟨kind, hkind⟩
    by_contra h
    obtain ⟨a, -, b, -, -, herror⟩ := deduceKind_of_not_agreeing h
    rw [herror] at hkind
    cases hkind
  · exact fun h => ⟨_, deduceKind_of_agreeing h⟩

/-- The kind that is deduced is the only one that is asked for, or a selection if none is. -/
theorem kindsOf_indicators {q : Query} {kind : QueryKind} (h : q.deduceKind = .ok kind) :
    kindsOf q.indicators = {kind} ∨ kindsOf q.indicators = ∅ ∧ kind = .select := by
  have hagreeing := q.exists_deduceKind_iff.mp ⟨kind, h⟩
  rw [deduceKind_of_agreeing hagreeing] at h
  cases hindicators : q.indicators with
  | nil =>
    rw [hindicators] at h
    exact .inr ⟨rfl, (Except.ok.inj h).symm⟩
  | cons first rest =>
    rw [hindicators] at h hagreeing
    rw [kindsOf_eq_singleton hagreeing]
    exact .inl (congrArg _ (Except.ok.inj h))

/-- The kind of a query, or the code of its refusal, depends on the kinds that are asked for alone. -/
theorem coded_deduceKind_congr {q q' : Query} (h : kindsOf q.indicators = kindsOf q'.indicators) :
    Failure.coded q.deduceKind = Failure.coded q'.deduceKind := by
  by_cases hagreeing : Agreeing q.indicators
  · have hagreeing' : Agreeing q'.indicators := by rwa [← card_kindsOf_le_one, ← h, card_kindsOf_le_one]
    obtain ⟨kind, hkind⟩ := q.exists_deduceKind_iff.mpr hagreeing
    obtain ⟨kind', hkind'⟩ := q'.exists_deduceKind_iff.mpr hagreeing'
    have hsame : kind = kind' := by
      rcases kindsOf_indicators hkind with hone | ⟨hnone, rfl⟩ <;>
        rcases kindsOf_indicators hkind' with hone' | ⟨hnone', rfl⟩
      · simpa [hone, hone'] using h
      · simp [hone, hnone'] at h
      · simp [hnone, hone'] at h
      · rfl
    rw [hkind, hkind', hsame]
  · have hagreeing' : ¬ Agreeing q'.indicators := by rwa [← card_kindsOf_le_one, ← h, card_kindsOf_le_one]
    obtain ⟨_, -, _, -, -, herror⟩ := deduceKind_of_not_agreeing hagreeing
    obtain ⟨_, -, _, -, -, herror'⟩ := deduceKind_of_not_agreeing hagreeing'
    rw [herror, herror']
    rfl

/-- Lists of operators with the same determined ones, in any order and number, ask for the same kinds. -/
theorem kindsOf_indicators_with_operators {q : Query} {operators : List OperatorUse}
    (h : ∀ op, (QueryKind.ofOperator op.symbol).isDetermined = true → (op ∈ operators ↔ op ∈ q.operators)) :
    kindsOf { q with operators }.indicators = kindsOf q.indicators := by
  have hnamed : { q with operators }.namedIndicators = q.namedIndicators := rfl
  have himplied : ∀ indicator, indicator ∈ { q with operators }.operatorIndicators ↔
      indicator ∈ q.operatorIndicators := by
    intro indicator
    simp only [operatorIndicators, List.mem_map, List.mem_filter]
    constructor
    · rintro ⟨op, ⟨hop, hdetermined⟩, rfl⟩
      exact ⟨op, ⟨(h op hdetermined).mp hop, hdetermined⟩, rfl⟩
    · rintro ⟨op, ⟨hop, hdetermined⟩, rfl⟩
      exact ⟨op, ⟨(h op hdetermined).mpr hop, hdetermined⟩, rfl⟩
  ext kind
  simp only [mem_kindsOf, indicators, hnamed, List.mem_append, himplied]

/-- The kind of a query, or the code of its refusal, does not depend on the order of operators. -/
theorem coded_deduceKind_perm {q : Query} {operators : List OperatorUse}
    (h : q.operators.Perm operators) :
    Failure.coded q.deduceKind = Failure.coded { q with operators }.deduceKind :=
  coded_deduceKind_congr (kindsOf_indicators_with_operators fun _ _ => h.symm.mem_iff).symm

/-! ## Deduction as agreement -/

/-- The kind that a verb names, in any case. -/
def verbKind? (verb : String) : Option QueryKind :=
  match verb.toLower with
  | "select" => some .select
  | "insert" => some .insert
  | "update" => some .update
  | "delete" => some .delete
  | _ => none

/-- The kind that an operator implies. -/
def operatorKind? : String → Option QueryKind
  | ".=" => some .insert
  | "~=" => some .delete
  | ":=" | "+=" | "-=" | "*=" | "/=" | "%=" => some .update
  | _ => none

/-- The kinds of the flags that are set. -/
def flaggedKinds (q : Query) : Finset QueryKind :=
  (if q.hasOption "I" then {.insert} else ∅) ∪ (if q.hasOption "U" then {.update} else ∅) ∪
    (if q.hasOption "D" then {.delete} else ∅)

/-- The kinds that are asked for by name: that of the command alone if it is a verb, and else those of the flags
that are set. -/
def namedKinds (q : Query) : Finset QueryKind :=
  match q.command.bind verbKind? with
  | some kind => {kind}
  | none => q.flaggedKinds

/-- The kinds that operators imply. -/
def impliedKinds (q : Query) : Finset QueryKind :=
  (q.operators.filterMap fun op => operatorKind? op.symbol).toFinset

/-- What in a query asks for a kind, and how messages call it. Flags count only beside no verb. -/
inductive Indicates (q : Query) : Indicator → Prop where
  | command {name : String} {kind : QueryKind} (h : q.command = some name) (hkind : verbKind? name = some kind) :
      Indicates q ⟨kind, s!"command '{name}'"⟩
  | flag {key : String} {kind : QueryKind} (h : q.command.bind verbKind? = none)
      (hflag : (key, kind) ∈ [("I", .insert), ("U", .update), ("D", .delete)])
      (hset : q.hasOption key = true) : Indicates q ⟨kind, s!"flag '-{key}'"⟩
  | operator {op : OperatorUse} {kind : QueryKind} {word : String} (h : op ∈ q.operators)
      (hkind : operatorKind? op.symbol = some kind) (hword : (q.bucket op.sigil)[op.index]? = some word) :
      Indicates q ⟨kind, s!"operator '{op.symbol}' in '{op.sigil}{word}'"⟩
  /-- An operator whose word is not there, as in no query that is sorted from a line. -/
  | unplaced {op : OperatorUse} {kind : QueryKind} (h : op ∈ q.operators)
      (hkind : operatorKind? op.symbol = some kind) (hword : (q.bucket op.sigil)[op.index]? = none) :
      Indicates q ⟨kind, s!"operator '{op.symbol}'"⟩

theorem ofVerb?_eq : QueryKind.ofVerb? = verbKind? := rfl

theorem verbKind?_determined {verb : String} {kind : QueryKind} (h : verbKind? verb = some kind) :
    kind ≠ .undetermined := by
  rintro rfl
  unfold verbKind? at h
  split at h <;> cases h

theorem operatorKind?_determined {symbol : String} {kind : QueryKind} (h : operatorKind? symbol = some kind) :
    kind ≠ .undetermined := by
  rintro rfl
  unfold operatorKind? at h
  split at h <;> cases h

/-- An operator that implies no kind is undetermined. -/
theorem ofOperator_eq (symbol : String) :
    QueryKind.ofOperator symbol = (operatorKind? symbol).getD .undetermined := by
  unfold operatorKind?
  split
  any_goals decide
  -- any other operator is in no list
  simp_all [QueryKind.ofOperator, QueryKind.insertOperator, QueryKind.deleteOperator, QueryKind.updateOperators]

theorem operatorKind?_eq_some_iff {symbol : String} {kind : QueryKind} :
    operatorKind? symbol = some kind ↔
      (QueryKind.ofOperator symbol).isDetermined = true ∧ QueryKind.ofOperator symbol = kind := by
  rw [ofOperator_eq]
  cases hkind : operatorKind? symbol with
  | none => simp [QueryKind.isDetermined]
  | some found => simp [QueryKind.isDetermined, operatorKind?_determined hkind]

theorem commandIndicator?_eq_none {q : Query} : q.commandIndicator? = none ↔ q.command.bind verbKind? = none := by
  unfold commandIndicator?
  cases q.command <;> simp [ofVerb?_eq]

theorem kindsOf_flagIndicators (q : Query) : kindsOf q.flagIndicators = q.flaggedKinds := by
  simp only [kindsOf, flagIndicators, kindFlags, flaggedKinds, List.filter_cons, List.filter_nil]
  cases q.hasOption "I" <;> cases q.hasOption "U" <;> cases q.hasOption "D" <;> rfl

theorem kindsOf_namedIndicators (q : Query) : kindsOf q.namedIndicators = q.namedKinds := by
  unfold namedIndicators namedKinds commandIndicator?
  rw [ofVerb?_eq]
  cases q.command with
  | none => exact q.kindsOf_flagIndicators
  | some name =>
    cases hkind : verbKind? name with
    | none => simpa [hkind] using q.kindsOf_flagIndicators
    | some kind => simp [kindsOf, hkind]

theorem kindsOf_operatorIndicators (q : Query) : kindsOf q.operatorIndicators = q.impliedKinds := by
  ext kind
  simp [mem_kindsOf, operatorIndicators, impliedKinds, operatorKind?_eq_some_iff, and_assoc]

theorem kindsOf_indicators_eq (q : Query) : kindsOf q.indicators = q.namedKinds ∪ q.impliedKinds := by
  rw [← kindsOf_namedIndicators, ← kindsOf_operatorIndicators, indicators, kindsOf, List.map_append,
    List.toFinset_append]
  rfl

theorem indicates_of_operator {q : Query} {op : OperatorUse} (hop : op ∈ q.operators)
    (hdetermined : (QueryKind.ofOperator op.symbol).isDetermined = true) :
    q.Indicates ⟨QueryKind.ofOperator op.symbol, q.operatorLabel op⟩ := by
  have hkind := operatorKind?_eq_some_iff.mpr ⟨hdetermined, rfl⟩
  unfold operatorLabel wordOf?
  cases hword : (q.bucket op.sigil)[op.index]? with
  | none => exact .unplaced hop hkind hword
  | some word => exact .operator hop hkind hword

theorem indicates_of_mem {q : Query} {indicator : Indicator} (h : indicator ∈ q.indicators) :
    q.Indicates indicator := by
  rcases List.mem_append.mp h with hnamed | himplied
  · unfold namedIndicators at hnamed
    split at hnamed
    · rename_i found hfound
      obtain rfl := List.mem_singleton.mp hnamed
      obtain ⟨name, hname, hmap⟩ := Option.bind_eq_some_iff.mp hfound
      obtain ⟨kind, hkind, rfl⟩ := Option.map_eq_some_iff.mp hmap
      exact .command hname hkind
    · rename_i hnone
      obtain ⟨flag, hflag, rfl⟩ := List.mem_map.mp hnamed
      obtain ⟨hmem, hset⟩ := List.mem_filter.mp hflag
      exact .flag (commandIndicator?_eq_none.mp hnone) hmem hset
  · obtain ⟨op, hop, rfl⟩ := List.mem_map.mp himplied
    obtain ⟨hmem, hdetermined⟩ := List.mem_filter.mp hop
    exact indicates_of_operator hmem hdetermined

theorem Indicates.determined {q : Query} {indicator : Indicator} (h : q.Indicates indicator) :
    indicator.kind ≠ .undetermined := by
  cases h with
  | command hname hkind => exact verbKind?_determined hkind
  | @flag key kind hcommand hflag hset =>
    rintro rfl
    simp at hflag
  | operator hop hkind | unplaced hop hkind => exact operatorKind?_determined hkind

theorem ne_undetermined_of_deduceKind {q : Query} {kind : QueryKind} (h : q.deduceKind = .ok kind) :
    kind ≠ .undetermined := by
  rcases kindsOf_indicators h with hone | ⟨-, rfl⟩
  · have hmem : kind ∈ kindsOf q.indicators := by simp [hone]
    obtain ⟨indicator, hindicator, rfl⟩ := mem_kindsOf.mp hmem
    exact (indicates_of_mem hindicator).determined
  · decide

/-- A kind is deduced exactly if no two are asked for; it is the one that is, or a selection. A refusal names
two indicators of the query that ask for different kinds. Nothing of it depends on the order of operators, on
how often one stands there, or on operators without a kind. -/
theorem deduceKind_agreement (q : Query) :
    let kinds := q.namedKinds ∪ q.impliedKinds
    ((∃ kind, q.deduceKind = .ok kind) ↔ kinds.card ≤ 1) ∧
      (∀ kind, q.deduceKind = .ok kind →
        (kinds = {kind} ∨ kinds = ∅ ∧ kind = .select) ∧ kind ≠ .undetermined) ∧
      (∀ failure, q.deduceKind = .error failure → ∃ a b, q.Indicates a ∧ q.Indicates b ∧ a.kind ≠ b.kind ∧
        failure = .inconsistentKind a.label b.label) ∧
      ∀ operators : List OperatorUse,
        (∀ op kind, operatorKind? op.symbol = some kind → (op ∈ operators ↔ op ∈ q.operators)) →
        Failure.coded { q with operators }.deduceKind = Failure.coded q.deduceKind := by
  intro kinds
  have hkinds : kindsOf q.indicators = kinds := q.kindsOf_indicators_eq
  refine ⟨?_, fun kind hkind => ⟨hkinds ▸ kindsOf_indicators hkind, ne_undetermined_of_deduceKind hkind⟩,
    fun failure hfailure => ?_,
    fun operators hsame => coded_deduceKind_congr (kindsOf_indicators_with_operators fun op hdetermined =>
      hsame op _ (operatorKind?_eq_some_iff.mpr ⟨hdetermined, rfl⟩))⟩
  · rw [exists_deduceKind_iff, ← hkinds, card_kindsOf_le_one]
  · have hdisagreeing : ¬ Agreeing q.indicators := by
      intro hagreeing
      rw [deduceKind_of_agreeing hagreeing] at hfailure
      cases hfailure
    obtain ⟨a, ha, b, hb, hne, herror⟩ := deduceKind_of_not_agreeing hdisagreeing
    rw [herror] at hfailure
    exact ⟨a, b, indicates_of_mem ha, indicates_of_mem hb, hne, (Except.error.inj hfailure).symm⟩

/-- A verb beside a flag that it hides, with operators of its kind and one of none; flags that count, since the
command is no verb or there is none; and refusals that name a verb or a flag beside an operator of another kind,
or two flags. -/
theorem deduceKind_agreement_hidden :
    let hidden := (sortLine "\\" none .fresh ["\\Insert", "users", "-D", "a.=1", "c!!=3", "b.=2"]).1
    let operators : List OperatorUse := [⟨"!!=", "", 1⟩, ⟨".=", "", 2⟩, ⟨".=", "", 0⟩, ⟨".=", "", 2⟩]
    let flagged := (sortLine "\\" none .fresh ["users", "-D", "b~=2"]).1
    let lone := (sortLine "\\" none .fresh ["\\users", "users", "-U", "a=1"]).1
    let refused := (sortLine "\\" none .fresh ["\\Insert", "users", "-D", "b~=2"]).1
    let crossed := (sortLine "\\" none .fresh ["users", "-I", "b~=2"]).1
    let doubled := (sortLine "\\" none .fresh ["users", "-D", "-I", "b=2"]).1
    (hidden.namedKinds = {.insert} ∧ hidden.impliedKinds = {.insert} ∧ (∃ kind, hidden.deduceKind = .ok kind) ∧
      Failure.coded { hidden with operators }.deduceKind = .ok .insert) ∧
    (flagged.namedKinds = {.delete} ∧ flagged.impliedKinds = {.delete} ∧ flagged.deduceKind = .ok .delete) ∧
    (lone.namedKinds = {.update} ∧ lone.impliedKinds = ∅ ∧ lone.deduceKind = .ok .update) ∧
    (¬ (refused.namedKinds ∪ refused.impliedKinds).card ≤ 1 ∧
      refused.deduceKind = .error (.inconsistentKind "command 'Insert'" "operator '~=' in 'b~=2'")) ∧
    (¬ (crossed.namedKinds ∪ crossed.impliedKinds).card ≤ 1 ∧
      crossed.deduceKind = .error (.inconsistentKind "flag '-I'" "operator '~=' in 'b~=2'")) ∧
    ¬ (doubled.namedKinds ∪ doubled.impliedKinds).card ≤ 1 ∧
      doubled.deduceKind = .error (.inconsistentKind "flag '-I'" "flag '-D'") := by
  intro hidden operators flagged lone refused crossed doubled
  have hoperators : hidden.operators = [⟨".=", "", 0⟩, ⟨"!!=", "", 1⟩, ⟨".=", "", 2⟩] := by decide +kernel
  have hsame : ∀ op kind, operatorKind? op.symbol = some kind → (op ∈ operators ↔ op ∈ hidden.operators) := by
    intro op _ _
    rw [hoperators]
    simp only [operators, List.mem_cons, List.not_mem_nil]
    tauto
  have hcoded : Failure.coded hidden.deduceKind = .ok .insert := by decide +kernel
  have hflagged : flagged.deduceKind = .ok .delete := by decide +kernel
  have hlone : lone.deduceKind = .ok .update := by decide +kernel
  have hrefused : refused.deduceKind =
      .error (.inconsistentKind "command 'Insert'" "operator '~=' in 'b~=2'") := by decide +kernel
  have hcrossed : crossed.deduceKind =
      .error (.inconsistentKind "flag '-I'" "operator '~=' in 'b~=2'") := by decide +kernel
  have hdoubled : doubled.deduceKind = .error (.inconsistentKind "flag '-I'" "flag '-D'") := by decide +kernel
  have hmany : ∀ (q : Query) (failure : Failure), q.deduceKind = .error failure →
      ¬ (q.namedKinds ∪ q.impliedKinds).card ≤ 1 := by
    intro q failure herror hcard
    obtain ⟨kind, hkind⟩ := (deduceKind_agreement q).1.mpr hcard
    rw [herror] at hkind
    cases hkind
  have h := deduceKind_agreement hidden
  exact ⟨⟨by decide +kernel, by decide +kernel, h.1.mpr (by decide +kernel),
      (h.2.2.2 operators hsame).trans hcoded⟩,
    ⟨by decide +kernel, by decide +kernel, hflagged⟩, ⟨by decide +kernel, by decide +kernel, hlone⟩,
    ⟨hmany _ _ hrefused, hrefused⟩, ⟨hmany _ _ hcrossed, hcrossed⟩, hmany _ _ hdoubled, hdoubled⟩

end Query

end TerseQuery
