import Mathlib.Data.Bool.AllAny
import TerseQuery.Proofs.Checked.Sorting
import TerseQuery.Proofs.Text.Cut
import TerseQuery.Sql.Synthesis

/-!
# Words cut at their operators

The operator of a word is found by the run of characters before an `=`, and the word is cut at the first
occurrence of the operator as a text. Both are at the same place.

* `operatorFrom_eq_none_iff`, `exists_of_operatorFrom`: the scan stops at the first `=` that ends an operator;
* `isSome_operatorAfter?_append`: a run that makes an operator makes one behind any text;
* `splitAssignment_operator?`: what stands before and after the operator, and that the cut is there.
-/

namespace TerseQuery

open Text Checked

namespace Token

/-! ## The first operator -/

/-- The operator that ends with an `=` after a text: the characters other than word characters at the end of
the text, with the `=`. There have to be such characters, and they must not compare. -/
def operatorAfter? (before : List Char) : Option (List Char) :=
  if (endRun before).isEmpty || comparisons.contains (endRun before ++ ['=']) then none
  else some (endRun before ++ ['='])

/-- No operator ends inside a text. -/
def OperatorFree (cs : List Char) : Prop :=
  ∀ before after, cs = before ++ '=' :: after → operatorAfter? before = none

theorem operatorAfter?_of_run {before : List Char} (hne : endRun before ≠ [])
    (hcompares : endRun before ++ ['='] ∉ comparisons) :
    operatorAfter? before = some (endRun before ++ ['=']) := by
  simp [operatorAfter?, hne, hcompares]

theorem operatorAfter?_of_not_run {before : List Char}
    (h : ¬ (endRun before ≠ [] ∧ endRun before ++ ['='] ∉ comparisons)) : operatorAfter? before = none := by
  rw [not_and_or, not_not, not_not] at h
  rcases h with hnil | hmem
  · simp [operatorAfter?, hnil]
  · simp [operatorAfter?, hmem]

theorem operatorAfter?_eq_some {before symbol : List Char} (h : operatorAfter? before = some symbol) :
    symbol = endRun before ++ ['='] ∧ endRun before ≠ [] ∧ symbol ∉ comparisons := by
  unfold operatorAfter? at h
  split at h
  · cases h
  · rename_i hfound
    cases h
    simpa using hfound

/-- One step of the scan. -/
theorem operatorFrom_endRun_cons (before rest : List Char) (c : Char) :
    operatorFrom (endRun before) (c :: rest) =
      (if c = '=' then operatorAfter? before else none).or (operatorFrom (endRun (before ++ [c])) rest) := by
  rw [operatorFrom, endRun_append_singleton]
  by_cases hmark : c = '='
  · subst hmark
    have hword : isWordChar '=' = false := by decide
    by_cases hfound : endRun before ≠ [] ∧ endRun before ++ ['='] ∉ comparisons
    · simp [hword, hfound, operatorAfter?_of_run hfound.1 hfound.2]
    · simp only [hword, true_and, if_neg hfound, operatorAfter?_of_not_run hfound]
      rfl
  · have hnone : ¬ (c = '=' ∧ endRun before ≠ [] ∧ endRun before ++ ['='] ∉ comparisons) :=
      fun hfound => hmark hfound.1
    rw [if_neg hmark, Option.none_or, if_neg hnone]
    split <;> rfl

theorem operatorFrom_eq_none_iff (before : List Char) {rest : List Char} :
    operatorFrom (endRun before) rest = none ↔
      ∀ inner after, rest = inner ++ '=' :: after → operatorAfter? (before ++ inner) = none := by
  induction rest generalizing before with
  | nil => simp [operatorFrom]
  | cons c rest ih =>
    rw [operatorFrom_endRun_cons, Option.or_eq_none_iff, ih]
    constructor
    · rintro ⟨hhere, hlater⟩ inner after heq
      cases inner with
      | nil =>
        rw [List.nil_append, List.cons.injEq] at heq
        rw [if_pos heq.1] at hhere
        rwa [List.append_nil]
      | cons d inner =>
        obtain ⟨rfl, hrest⟩ := List.cons.inj heq
        simpa using hlater inner after hrest
    · intro hnone
      constructor
      · split
        · rename_i hmark
          simpa using hnone [] rest (by rw [hmark]; rfl)
        · rfl
      · intro inner after hrest
        simpa using hnone (c :: inner) after (by rw [hrest]; rfl)

/-- The scan stops where an operator ends, and finds none in what it has read. -/
theorem exists_of_operatorFrom (before : List Char) {rest symbol : List Char}
    (h : operatorFrom (endRun before) rest = some symbol) :
    ∃ inner after, rest = inner ++ '=' :: after ∧ operatorAfter? (before ++ inner) = some symbol ∧
      operatorFrom (endRun before) inner = none := by
  induction rest generalizing before with
  | nil => cases h
  | cons c rest ih =>
    rw [operatorFrom_endRun_cons] at h
    rcases Option.or_eq_some_iff.mp h with hhere | ⟨hnone, hlater⟩
    · split at hhere
      · rename_i hmark
        exact ⟨[], rest, by rw [hmark]; rfl, by rwa [List.append_nil], rfl⟩
      · cases hhere
    · obtain ⟨inner, after, hrest, hfound, hfree⟩ := ih _ hlater
      refine ⟨c :: inner, after, by rw [hrest]; rfl, by simpa using hfound, ?_⟩
      rw [operatorFrom_endRun_cons, hnone, hfree]
      rfl

theorem operator?_eq_none_iff {text : String} : operator? text = none ↔ OperatorFree text.toList := by
  rw [operator?, Option.map_eq_none_iff]
  exact operatorFrom_eq_none_iff []

theorem exists_of_operator? {word symbol : String} (h : operator? word = some symbol) :
    ∃ before after, word.toList = before ++ '=' :: after ∧ operatorAfter? before = some symbol.toList ∧
      OperatorFree before := by
  obtain ⟨cs, hcs, rfl⟩ := Option.map_eq_some_iff.mp h
  obtain ⟨before, after, hword, hfound, hfree⟩ := exists_of_operatorFrom [] hcs
  refine ⟨before, after, hword, by rwa [String.toList_ofList], ?_⟩
  exact (operatorFrom_eq_none_iff []).mp hfree

/-! ## Where an operator can occur -/

theorem endRun_append_of_run {run : List Char} (hrun : ∀ c ∈ run, isWordChar c = false) (before : List Char) :
    endRun (before ++ run) = endRun before ++ run := by
  induction run using List.reverseRecOn with
  | nil => simp
  | append_singleton run c ih =>
    have hlast : isWordChar c = false := hrun c (by simp)
    rw [← List.append_assoc, endRun_append_singleton, hlast, ih fun d hd => hrun d (by simp [hd])]
    simp

/-- A run that makes an operator makes one behind any text: a run that compares is a single character, and so
is no longer than this one. -/
theorem isSome_operatorAfter?_append {run : List Char} (hrun : ∀ c ∈ run, isWordChar c = false)
    (hne : run ≠ []) (hcompares : run ++ ['='] ∉ comparisons) (before : List Char) :
    (operatorAfter? (before ++ run)).isSome = true := by
  rw [operatorAfter?_of_run]
  · rfl
  · simp [endRun_append_of_run hrun, hne]
  · rw [endRun_append_of_run hrun]
    refine fun hmem => hcompares ?_
    have hlength : (endRun before ++ run ++ ['=']).length = 2 :=
      List.all_iff_forall_prop.mp (by decide : comparisons.all (·.length = 2) = true) _ hmem
    have hpos : 0 < run.length := List.length_pos_iff.mpr hne
    have hnone : endRun before = [] := by
      rw [← List.length_eq_zero_iff]
      simp only [List.length_append, List.length_singleton] at hlength
      omega
    rwa [hnone, List.nil_append] at hmem

/-- A column in front of an operator: it is empty or ends with a word character. -/
def EndsColumn (column : List Char) : Prop :=
  ∀ c ∈ column.getLast?, isWordChar c = true

theorem endsColumn_rdropWhile (before : List Char) :
    EndsColumn (before.rdropWhile fun c => !isWordChar c) := by
  intro c hc
  obtain ⟨hne, rfl⟩ := List.mem_getLast?_eq_getLast hc
  simpa using List.rdropWhile_last_not (fun c => !isWordChar c) before hne

/-- A text that can be an operator: characters other than word characters, at least one, and `=`, and no
comparison. -/
structure IsOperator (symbol : String) : Prop where
  run : ∃ run, symbol.toList = run ++ ['='] ∧ run ≠ [] ∧ ∀ c ∈ run, isWordChar c = false
  compares : symbol ∉ ["<=", ">=", "!=", "=="]

/-- A word in the parts that its operator sets apart. -/
structure Parted (word column symbol value : String) : Prop where
  whole : word = column ++ symbol ++ value
  /-- The operator starts after the column and ends with the first `=` that ends one. -/
  recorded : ∃ run, symbol.toList = run ++ ['='] ∧
    operatorAfter? (column.toList ++ run) = some symbol.toList ∧ OperatorFree (column.toList ++ run)
  /-- The operator takes all the characters before its `=` up to a word character. -/
  edge : EndsColumn column.toList
  plain : operator? column = none

theorem isOperator_of_operatorAfter? {before : List Char} {symbol : String}
    (h : operatorAfter? before = some symbol.toList) : IsOperator symbol := by
  obtain ⟨hsymbol, hne, hcompares⟩ := operatorAfter?_eq_some h
  refine ⟨⟨endRun before, hsymbol, hne, fun c hc => by simpa using List.mem_rtakeWhile_imp hc⟩, fun hmem => ?_⟩
  exact hcompares (List.mem_map_of_mem (f := String.toList) hmem)

/-- The text before the `=` of an operator is the column and the run. -/
theorem parted_of_operatorAfter? {word symbol : String} {before after : List Char}
    (hword : word.toList = before ++ '=' :: after) (hfound : operatorAfter? before = some symbol.toList)
    (hfree : OperatorFree before) :
    ∃ column, Parted word column symbol (String.ofList after) := by
  obtain ⟨hsymbol, -, -⟩ := operatorAfter?_eq_some hfound
  let column := before.rdropWhile fun c => !isWordChar c
  have hbefore : column ++ endRun before = before := List.rdropWhile_append_rtakeWhile
  refine ⟨String.ofList column, ?_, ⟨endRun before, hsymbol, ?_, ?_⟩, ?_, ?_⟩
  · rw [← String.toList_inj, String.toList_append, String.toList_append, String.toList_ofList,
      String.toList_ofList, hsymbol, hword]
    conv => lhs; rw [← hbefore]
    simp
  · rwa [String.toList_ofList, hbefore]
  · rwa [String.toList_ofList, hbefore]
  · rw [String.toList_ofList]
    exact endsColumn_rdropWhile before
  · rw [operator?_eq_none_iff, String.toList_ofList]
    intro earlier later heq
    refine hfree earlier (later ++ endRun before) ?_
    calc before = column ++ endRun before := hbefore.symm
      _ = earlier ++ '=' :: (later ++ endRun before) := by rw [heq, List.append_assoc, List.cons_append]

/-- No occurrence of an operator starts before the one that is found. It would end at an earlier `=`, and the
run before that makes an operator too. -/
theorem Parted.length_le {word column symbol value : String} (h : Parted word column symbol value)
    {earlier later : List Char} (heq : word.toList = earlier ++ (symbol.toList ++ later)) :
    column.toList.length ≤ earlier.length := by
  obtain ⟨run, hsymbol, hfound, hfree⟩ := h.recorded
  obtain ⟨-, -, hcompares⟩ := operatorAfter?_eq_some hfound
  obtain ⟨run', hrun', hne, hplain⟩ := (isOperator_of_operatorAfter? hfound).run
  obtain rfl : run = run' := List.append_cancel_right (hsymbol.symm.trans hrun')
  by_contra hlt
  have hwhole : column.toList ++ run ++ '=' :: value.toList = earlier ++ run ++ '=' :: later := by
    rw [h.whole, String.toList_append, String.toList_append, hsymbol] at heq
    simpa using heq
  -- the `=` of the earlier occurrence is before the one at which the scan stopped
  have hlength : (earlier ++ run ++ ['=']).length ≤ (column.toList ++ run).length := by
    simp only [List.length_append, List.length_singleton]
    omega
  have hearlier : earlier ++ run ++ ['='] <+: column.toList ++ run ++ '=' :: value.toList :=
    ⟨later, by rw [hwhole, List.append_assoc, List.singleton_append]⟩
  obtain ⟨between, hbetween⟩ :=
    List.prefix_of_prefix_length_le hearlier (List.prefix_append _ _) hlength
  have hnone := hfree (earlier ++ run) between (by rw [← hbetween, List.append_assoc]; rfl)
  rw [hsymbol] at hcompares
  have hsome := isSome_operatorAfter?_append hplain hne hcompares earlier
  rw [hnone] at hsome
  cases hsome

end Token

namespace Sql

open Token

/-- A word is cut at the very operator that is found in it, whatever comparisons stand before it and however
often its text comes again. -/
theorem splitAssignment_operator? {word symbol : String} (h : operator? word = some symbol) :
    IsOperator symbol ∧
      ∃ column value, Parted word column symbol value ∧
        Text.cutAt? word symbol = some (column, value) ∧
        splitAssignment word symbol =
          if isIdentifier column then .ok (column, value) else .error (.infeasible word) := by
  obtain ⟨before, after, hword, hfound, hfree⟩ := exists_of_operator? h
  obtain ⟨column, hparted⟩ := parted_of_operatorAfter? hword hfound hfree
  have hcut : Text.cutAt? word symbol = some (column, String.ofList after) := by
    have hfirst : Text.cut? symbol.toList word.toList = some (column.toList, after) := by
      refine Text.cut?_eq_some_iff.mpr ⟨?_, fun earlier later heq => hparted.length_le heq⟩
      rw [hparted.whole, String.toList_append, String.toList_append, String.toList_ofList, List.append_assoc]
    rw [Text.cutAt?, hfirst, Option.map_some, String.ofList_toList]
  refine ⟨isOperator_of_operatorAfter? hfound, column, String.ofList after, hparted, hcut, ?_⟩
  rw [splitAssignment, hcut]

/-- Comparisons before the operator, one of which it contains, and its text once more in the value. -/
theorem splitAssignment_operator?_recurring :
    let word := "a<=b!==c!==d"
    operator? word = some "!==" ∧ IsOperator "!==" ∧ Parted word "a<=b" "!==" "c!==d" ∧
      splitAssignment word "!==" = .error (.infeasible word) := by
  intro word
  have hfound : operator? word = some "!==" := by decide +kernel
  obtain ⟨hoperator, column, value, hparted, hcut, hsplit⟩ := splitAssignment_operator? hfound
  have hparts : Text.cutAt? word "!==" = some ("a<=b", "c!==d") := by decide +kernel
  rw [hparts, Option.some.injEq, Prod.mk.injEq] at hcut
  obtain ⟨rfl, rfl⟩ := hcut
  exact ⟨hfound, hoperator, hparted, hsplit⟩

end Sql

end TerseQuery
