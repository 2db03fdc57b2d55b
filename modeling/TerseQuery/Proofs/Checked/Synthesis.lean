import TerseQuery.Proofs.Checked.Access
import TerseQuery.Proofs.Sql.Reading
import TerseQuery.Proofs.Sql.Words

/-!
# Words cut at bytes

A predicate is cut at its comparison, which is sought from each of its characters on. The sign of an assignment
is the first byte of its operator: the operators of assignments start with characters of one byte, and others
are refused before they are cut. So no cut fails when SQL is made of a query.

* `predicate_eq`, `assignment_eq`: what a word stands for, whatever the word and the operator are;
* `synthesize_eq`: the SQL of a query.
-/

namespace TerseQuery.Checked

open Sql

/-- A refusal. It is no access that fails. -/
def refuse {α : Type} (failure : Failure) : OptionT (Except Failure) α :=
  liftM (Except.error failure : Except Failure α)

/-! ## Predicates -/

/-- The first of some places of a text from which on it starts with a comparison. -/
def comparisonIn (cs : List Char) : List (Nat × Char) → Option (Option (Nat × Comparison))
  | [] => some none
  | (start, _) :: rest => do
    let following ← sliceFrom? start cs
    match Comparison.leading? following with
    | some comparison => return some (start, comparison)
    | none => comparisonIn cs rest

/-- The predicate that a word is. -/
def predicate (word : String) : OptionT (Except Failure) Predicate := do
  let cs := word.toList
  match ← access (comparisonIn cs (places 0 cs)) with
  | none => refuse (.infeasible word)
  | some (start, comparison) =>
    let column ← access (slice? 0 start cs)
    if isIdentifier (String.ofList column) then
      let value ← access (sliceFrom? (start + comparison.symbol.utf8ByteSize) cs)
      return ⟨String.ofList column, comparison, String.ofList value⟩
    else refuse (.infeasible word)

theorem comparisonIn_places (before rest : List Char) :
    comparisonIn (before ++ rest) (places (byteLength before) rest) =
      some ((firstComparison? rest).map fun parts => (byteLength (before ++ parts.1), parts.2.1)) := by
  induction rest generalizing before with
  | nil => rfl
  | cons c rest ih =>
    have hlater := ih (before ++ [c])
    rw [byteLength_append, byteLength_cons, byteLength_nil, Nat.add_zero, List.append_assoc,
      List.singleton_append] at hlater
    rw [places, comparisonIn, sliceFrom?_append, Option.bind_eq_bind, Option.bind_some, firstComparison?]
    cases Comparison.leading? (c :: rest) with
    | some comparison => simp
    | none =>
      rw [hlater, Option.map_map]
      simp [Function.comp_def]

theorem predicate_eq (word : String) : predicate word = liftM (Predicate.ofWord word) := by
  have hfound := comparisonIn_places [] word.toList
  rw [List.nil_append, byteLength_nil] at hfound
  rw [predicate, hfound, Predicate.ofWord]
  cases hcut : firstComparison? word.toList with
  | none => rfl
  | some parts =>
    obtain ⟨before, comparison, after⟩ := parts
    have hsplit := (append_of_firstComparison? hcut).1
    have hcolumn : slice? 0 (byteLength before) word.toList = some before := by
      rw [hsplit, slice?_zero_append]
    have hvalue : sliceFrom? (byteLength before + comparison.symbol.utf8ByteSize) word.toList = some after := by
      rw [hsplit, ← byteLength_toList, ← byteLength_append, ← List.append_assoc, sliceFrom?_append]
    simp only [Option.map_some, List.nil_append, access_some, pure_bind, hcolumn, hvalue]
    split <;> rfl

/-! ## Assignments -/

/-- The assignment that a word with an operator stands for. -/
def assignment (text : String) (op : OperatorUse) : OptionT (Except Failure) Assignment :=
  if QueryKind.ofOperator op.symbol = .update then do
    let (column, value) ← splitAssignment text op.symbol
    if op.symbol = ":=" then return ⟨column, none, Sql.literal value⟩
    else
      let sign ← access (slice? 0 1 op.symbol.toList)
      return ⟨column, sign.head?, Sql.literal value⟩
  else refuse (.infeasible text)

/-- The operators of assignments have their first byte to themselves. Another operator need not, and is refused
before it is cut. -/
theorem slice?_of_update {symbol : String} (h : symbol ∈ QueryKind.updateOperators) :
    slice? 0 1 symbol.toList = some (symbol.toList.take 1) := by
  revert symbol
  decide

theorem assignment_eq (text : String) (op : OperatorUse) :
    assignment text op = liftM (Query.assignment text op) := by
  rw [assignment, Query.assignment_eq]
  by_cases hkind : QueryKind.ofOperator op.symbol = .update
  · have hsign := slice?_of_update (QueryKind.ofOperator_eq_update_iff.mp hkind)
    rw [if_pos hkind, if_pos hkind, liftM_bind, hsign]
    refine bind_congr fun parts => ?_
    simp only [access_some, pure_bind, List.head?_take, Nat.one_ne_zero, ↓reduceIte]
    split <;> rfl
  · rw [if_neg hkind, if_neg hkind]
    rfl

/-! ## Statements -/

/-- The condition that a word stands for, if it is one. -/
def condition? (q : Query) (marker : Option String) (word : PlainWord) :
    Option (OptionT (Except Failure) Condition) :=
  let twoValued := q.hasOption "2v"
  match word.operator with
  | none => some do
    let p ← predicate word.text
    liftM (Condition.ofPredicate twoValued p)
  | some op =>
    if some op.symbol = marker then
      some do
        let (column, value) ← splitAssignment word.text op.symbol
        liftM (Condition.ofPredicate twoValued ⟨column, .equals, value⟩)
    else none

def rowFilter (q : Query) (marker : Option String) : OptionT (Except Failure) RowFilter := do
  let conditions ← (q.plainWords.filterMap (condition? q marker)).mapM id
  return ⟨q.connective, conditions⟩

def selection (q : Query) (table : String) : OptionT (Except Failure) Statement := do
  Query.refuseWord q.plainWords fun word => word.operator.isSome
  let rows ← rowFilter q none
  let groupBy ← q.columnNames groupSigil
  let orderBy ← q.columnNames orderSigil
  let limit : Option Nat ← liftM q.limit
  return .select (q.bucket columnSigil) table rows groupBy orderBy limit

def insertPair (q : Query) (word : PlainWord) : OptionT (Except Failure) InsertPair :=
  match word.operator with
  | some op =>
    if op.symbol = QueryKind.insertOperator then do
      let (column, value) ← splitAssignment word.text QueryKind.insertOperator
      return ⟨column, Sql.literal value⟩
    else refuse (.infeasible word.text)
  | none =>
    if q.insertsByName then do
      let p ← predicate word.text
      if p.comparison.isEquality then return ⟨p.column, Sql.literal p.value⟩
      else refuse (.infeasible word.text)
    else refuse (.infeasible word.text)

def insertion (q : Query) (table : String) : OptionT (Except Failure) Statement := do
  q.refuseSelection
  let pairs ← q.plainWords.mapM (insertPair q)
  if pairs.isEmpty then refuse (.input (.insertWithoutPairs table))
  return .insert table pairs

def updating (q : Query) (table : String) : OptionT (Except Failure) Statement := do
  q.refuseSelection
  let assignments ← (q.plainWords.filterMap fun word => word.operator.map (assignment word.text)).mapM id
  if assignments.isEmpty then refuse (.input (.updateWithoutAssignments table))
  let rows ← rowFilter q none
  return .update table assignments rows

def deletion (q : Query) (table : String) : OptionT (Except Failure) Statement := do
  q.refuseSelection
  Query.refuseWord q.plainWords fun word => word.operator.any fun op => op.symbol ≠ QueryKind.deleteOperator
  let rows ← rowFilter q (some QueryKind.deleteOperator)
  return .delete table rows

/-- The statement that a query of a kind stands for. -/
def statement (q : Query) (kind : QueryKind) : OptionT (Except Failure) Statement := do
  let table ← q.tableName
  q.refuseForeign
  match kind with
  | .select => selection q table
  | .insert => insertion q table
  | .update => updating q table
  | .delete => deletion q table
  | .undetermined => refuse (.input .undeterminedKind)

/-- The SQL of a query and its kind. -/
def synthesize (q : Query) : OptionT (Except Failure) (String × QueryKind) :=
  match q.literal with
  | some sql => return (sql, Query.literalKind sql)
  | none => do
    let kind ← match q.kind with
      | some kind => pure kind
      | none => liftM q.deduceKind
    let found ← statement q kind
    return (found.toSql, kind)

theorem rowFilter_eq (q : Query) (marker : Option String) :
    rowFilter q marker = liftM (q.rowFilter marker) := by
  have hcondition : condition? q marker = fun word => (q.condition? marker word).map liftM := by
    funext word
    rw [condition?, Query.condition?]
    cases word.operator with
    | none =>
      dsimp only
      rw [predicate_eq, Option.map_some, liftM_bind]
    | some op =>
      dsimp only
      split
      · rw [Option.map_some, liftM_bind]
      · rfl
  rw [rowFilter, hcondition, mapM_filterMap_liftM, Query.rowFilter, liftM_bind]
  rfl

theorem selection_eq (q : Query) (table : String) : selection q table = liftM (q.selection table) := by
  rw [selection, Query.selection, rowFilter_eq]
  simp only [liftM_bind, liftM_pure]

theorem insertPair_eq (q : Query) (word : PlainWord) : insertPair q word = liftM (q.insertPair word) := by
  rw [insertPair, Query.insertPair]
  cases word.operator with
  | none =>
    dsimp only
    split
    · rw [predicate_eq, liftM_bind]
      refine bind_congr fun p => ?_
      split <;> rfl
    · rfl
  | some op =>
    dsimp only
    split
    · rw [liftM_bind]
      rfl
    · rfl

theorem insertion_eq (q : Query) (table : String) : insertion q table = liftM (q.insertion table) := by
  have hpair : insertPair q = fun word => liftM (q.insertPair word) := funext (insertPair_eq q)
  rw [insertion, Query.insertion, hpair, mapM_liftM]
  simp only [liftM_bind]
  refine bind_congr fun _ => bind_congr fun pairs => ?_
  split <;> rfl

theorem updating_eq (q : Query) (table : String) : updating q table = liftM (q.updating table) := by
  have hassignment : (fun word : PlainWord => word.operator.map (assignment word.text)) =
      fun word => (word.operator.map (Query.assignment word.text)).map liftM := by
    funext word
    rw [Option.map_map]
    exact congrArg word.operator.map (funext (assignment_eq word.text))
  rw [updating, Query.updating, rowFilter_eq, hassignment, mapM_filterMap_liftM]
  simp only [liftM_bind]
  refine bind_congr fun _ => bind_congr fun assignments => ?_
  split
  · rfl
  · rw [liftM_bind]
    rfl

theorem deletion_eq (q : Query) (table : String) : deletion q table = liftM (q.deletion table) := by
  rw [deletion, Query.deletion, rowFilter_eq]
  simp only [liftM_bind, liftM_pure]

theorem statement_eq (q : Query) (kind : QueryKind) : statement q kind = liftM (q.statement kind) := by
  rw [statement, Query.statement_eq, liftM_bind]
  simp only [liftM_bind]
  refine bind_congr fun table => bind_congr fun _ => ?_
  cases kind with
  | select => exact selection_eq q table
  | insert => exact insertion_eq q table
  | update => exact updating_eq q table
  | delete => exact deletion_eq q table
  | undetermined => rfl

/-- No access fails when SQL is made of a query. -/
theorem synthesize_eq (q : Query) : synthesize q = liftM q.synthesize := by
  rw [synthesize, Query.synthesize]
  cases q.literal with
  | some sql => rfl
  | none =>
    have hstatement : statement q = fun kind => liftM (q.statement kind) := funext (statement_eq q)
    cases q.kind <;> simp only [hstatement, liftM_bind, liftM_pure]

end TerseQuery.Checked
