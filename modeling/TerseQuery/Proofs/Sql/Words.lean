import TerseQuery.Proofs.Failure
import TerseQuery.Proofs.Query.Placement
import TerseQuery.Sql.Synthesis

/-!
# The words a statement is made of

A statement is made of words by sigil. For those without sigil it matters which operator they carry, and in
a recorded query that is the one in the word itself.

* `plainWords_eq`: plain words and their operators can be read off the words alone;
* `compile_eq`, `statement_eq`: deduction and synthesis as steps in a row.
-/

namespace TerseQuery

namespace Query

open Sql

/-- The kind of a query deduced, then its SQL. -/
def compile (q : Query) : Except Failure (String × QueryKind) :=
  q.withKind >>= synthesize

theorem compile_eq {q : Query} (h : q.literal = none) :
    q.compile = q.deduceKind >>= fun kind =>
      q.statement kind >>= fun statement => .ok (statement.toSql, kind) := by
  unfold compile withKind
  cases q.deduceKind with
  | error e => rfl
  | ok kind =>
    simp only [Except.map, bind, Except.bind, synthesize, h]
    rfl

/-- The name of the table of a query. -/
def tableName (q : Query) : Except Failure String :=
  match q.table with
  | none => .error .missingTable
  | some table => if isIdentifier table.name then .ok table.name else .error (.infeasible table.name)

theorem tableName_eq_ok {q : Query} {table : String} (h : q.tableName = .ok table) :
    q.table.map TableRef.name = some table := by
  unfold tableName at h
  split at h
  · cases h
  · rename_i found hfound
    split at h
    · cases h
      rw [hfound]
      rfl
    · cases h

/-- The statement of a kind on a table. -/
def statementOn (q : Query) (kind : QueryKind) (table : String) : Except Failure Statement :=
  match kind with
  | .select => q.selection table
  | .insert => q.insertion table
  | .update => q.updating table
  | .delete => q.deletion table
  | .undetermined => .error (.input .undeterminedKind)

theorem statement_eq (q : Query) (kind : QueryKind) :
    q.statement kind =
      q.tableName >>= fun table => q.refuseForeign >>= fun _ => q.statementOn kind table := by
  unfold statement tableName
  cases q.table with
  | none => rfl
  | some table =>
    simp only [Option.map_some]
    cases isIdentifier table.name with
    | false => rfl
    | true => cases kind <;> rfl

/-! ## Plain words -/

/-- The words without sigil that are not empty. -/
def words (q : Query) : List String :=
  (q.bucket conditionSigil).filter (· ≠ "")

/-- A word with the operator that is found in it. -/
def recordedWord (place : String × Nat) : PlainWord :=
  ⟨place.1, (Token.operator? place.1).map (⟨·, conditionSigil, place.2⟩)⟩

theorem plainWords_eq {q : Query} (h : q.Recorded) :
    q.plainWords =
      ((q.bucket conditionSigil).zipIdx.map recordedWord).filter fun word => word.text ≠ "" := by
  unfold plainWords
  congr 1
  apply List.map_congr_left
  rintro ⟨word, index⟩ hmem
  have hget : (q.bucket conditionSigil)[index]? = some word := List.mem_zipIdx_iff_getElem?.mp hmem
  simp only [recordedWord, h.operatorAt? hget]

theorem exists_places {q : Query} (h : q.Recorded) :
    ∃ places : List (String × Nat), q.plainWords = places.map recordedWord ∧
      places.map Prod.fst = q.words := by
  refine ⟨(q.bucket conditionSigil).zipIdx.filter fun place => place.1 ≠ "", ?_, ?_⟩
  · rw [plainWords_eq h, List.filter_map]
    rfl
  · have hfst := List.filter_map (f := Prod.fst) (p := fun word : String => decide (word ≠ ""))
      (l := (q.bucket conditionSigil).zipIdx)
    rw [List.zipIdx_map_fst] at hfst
    rw [words, hfst]
    rfl

section
variable {α : Type} {q : Query}

/-- What is chosen by text and operator is chosen by the word alone. -/
theorem filterMap_plainWords (h : q.Recorded) {f : PlainWord → Option α} {g : String → Option α}
    (hfg : ∀ place, f (recordedWord place) = g place.1) :
    q.plainWords.filterMap f = q.words.filterMap g := by
  obtain ⟨places, hplain, hwords⟩ := exists_places h
  rw [hplain, ← hwords, List.filterMap_map, List.filterMap_map]
  exact List.filterMap_congr fun place _ => hfg place

theorem mapM_plainWords (h : q.Recorded) {f : PlainWord → Except Failure α}
    {g : String → Except Failure α} (hfg : ∀ place, f (recordedWord place) = g place.1) :
    q.plainWords.mapM f = q.words.mapM g := by
  obtain ⟨places, hplain, hwords⟩ := exists_places h
  have hcomp : f ∘ recordedWord = g ∘ Prod.fst := funext hfg
  rw [hplain, ← hwords, List.mapM_map, List.mapM_map, hcomp]

theorem refuseWord_plainWords (h : q.Recorded) {f : PlainWord → Bool} {g : String → Bool}
    (hfg : ∀ place, f (recordedWord place) = g place.1) :
    refuseWord q.plainWords f = .ok () ↔ ∀ word ∈ q.words, g word = false := by
  obtain ⟨places, hplain, hwords⟩ := exists_places h
  have hcomp : f ∘ recordedWord = g ∘ Prod.fst := funext hfg
  have hfind : q.plainWords.find? f = none ↔ q.words.find? g = none := by
    rw [hplain, ← hwords, List.find?_map, List.find?_map, hcomp, Option.map_eq_none_iff,
      Option.map_eq_none_iff]
  have hnone : (∀ word ∈ q.words, g word = false) ↔ q.words.find? g = none := by
    simp [List.find?_eq_none]
  rw [hnone, ← hfind, refuseWord]
  cases q.plainWords.find? f <;> simp

/-- A selection takes words without operator only. -/
theorem refuseWord_isSome (h : q.Recorded) :
    refuseWord q.plainWords (fun word => word.operator.isSome) = .ok () ↔
      ∀ word ∈ q.words, Token.operator? word = none := by
  rw [refuseWord_plainWords h (g := fun word => (Token.operator? word).isSome) (by
    intro place
    simp [recordedWord])]
  simp

/-- A deletion takes words without operator and words with its marker only. -/
theorem refuseWord_delete (h : q.Recorded) :
    refuseWord q.plainWords
        (fun word => word.operator.any fun op => op.symbol ≠ QueryKind.deleteOperator) = .ok () ↔
      ∀ word ∈ q.words, ∀ symbol, Token.operator? word = some symbol →
        symbol = QueryKind.deleteOperator := by
  rw [refuseWord_plainWords h
    (g := fun word => (Token.operator? word).any (· ≠ QueryKind.deleteOperator)) (by
      intro place
      cases hop : Token.operator? place.1 <;> simp [recordedWord, hop])]
  constructor
  · intro hmarked word hword symbol hop
    have hsymbol := hmarked word hword
    simpa [hop] using hsymbol
  · intro hmarked word hword
    cases hop : Token.operator? word with
    | none => rfl
    | some symbol => simp [hmarked word hword symbol hop]

end

/-! ## What a word stands for -/

/-- An assignment as steps in a row. -/
theorem assignment_eq (text : String) (op : OperatorUse) :
    assignment text op =
      if QueryKind.ofOperator op.symbol = .update then
        splitAssignment text op.symbol >>= fun parts =>
          .ok ⟨parts.1, if op.symbol = ":=" then none else op.symbol.toList.head?,
            Sql.literal parts.2⟩
      else .error (.infeasible text) := by
  unfold assignment
  by_cases hkind : QueryKind.ofOperator op.symbol = .update
  · simp only [hkind, ne_eq, not_true_eq_false, ↓reduceIte]
    rfl
  · simp only [hkind, ne_eq, not_false_eq_true, ↓reduceIte]
    rfl

/-- The assignment that a word stands for, if it has an operator. -/
def assignmentOf? (word : String) : Option (Except Failure Assignment) :=
  (Token.operator? word).map fun symbol => assignment word ⟨symbol, conditionSigil, 0⟩

theorem assignments_eq {q : Query} (h : q.Recorded) :
    (q.plainWords.filterMap fun word => word.operator.map (assignment word.text)) =
      q.words.filterMap assignmentOf? := by
  apply filterMap_plainWords h
  intro place
  simp [recordedWord, assignmentOf?, assignment, Function.comp_def]

/-- The operator that marks filter words. -/
def marker? : QueryKind → Option String
  | .delete => some QueryKind.deleteOperator
  | _ => none

/-- The condition that a word stands for, if it is one. -/
def wordCondition? (twoValued : Bool) (marker : Option String) (word : String) :
    Option (Except Failure Condition) :=
  match Token.operator? word with
  | none => some (Predicate.ofWord word >>= Condition.ofPredicate twoValued)
  | some symbol =>
    if some symbol = marker then
      some (splitAssignment word symbol >>= fun parts =>
        Condition.ofPredicate twoValued ⟨parts.1, .equals, parts.2⟩)
    else none

theorem rowFilter_eq {q : Query} (h : q.Recorded) (marker : Option String) :
    q.rowFilter marker =
      (q.words.filterMap (wordCondition? (q.hasOption "2v") marker)).mapM id >>= fun conditions =>
        .ok ⟨q.connective, conditions⟩ := by
  have hwords : q.plainWords.filterMap (q.condition? marker) =
      q.words.filterMap (wordCondition? (q.hasOption "2v") marker) := by
    apply filterMap_plainWords h
    intro place
    unfold condition? wordCondition? recordedWord
    cases Token.operator? place.1 <;> rfl
  rw [rowFilter, hwords]
  rfl

end Query

end TerseQuery
