import TerseQuery.Proofs.ListLemmas
import TerseQuery.Proofs.Sql.Conditions
import TerseQuery.Proofs.Sql.Words
import TerseQuery.Proofs.Terse.Spelling

/-!
# No filter is lost

A statement is about the rows that its filter words describe. A word dropped on the way would let an update or
a deletion reach rows it should not.

* `rowFilter_filterWords`: each filter word states one predicate, and the filter has its condition;
* `splitOutside_filter`: the conditions come back when the filter is split at its connective;
* `compile_keeps_filters`: both, with what stands before and after the filter, for whole lines.
-/

namespace TerseQuery

namespace Sql

/-- Whether a word filters rows: it has no operator, or it marks the rows of a deletion. -/
def isFilter (kind : QueryKind) (word : String) : Bool :=
  match Token.operator? word with
  | none => true
  | some symbol => kind == .delete && symbol == "~="

/-- The predicate that a word states. A word with an operator states that the column has the value. -/
def StatedBy (word : String) (p : Predicate) : Prop :=
  match Token.operator? word with
  | none => Predicate.Reads word p
  | some symbol =>
    isIdentifier p.column = true ∧ p.comparison = .equals ∧ word = p.column ++ symbol ++ p.value

theorem statedBy_iff {word : String} {p : Predicate} :
    StatedBy word p ↔
      (Token.operator? word).elim (decide (Predicate.Reads word p)) (fun symbol =>
        decide (isIdentifier p.column = true ∧ p.comparison = .equals ∧ word = p.column ++ symbol ++ p.value)) =
      true := by
  unfold StatedBy
  cases Token.operator? word <;> simp

instance (word : String) (p : Predicate) : Decidable (StatedBy word p) :=
  decidable_of_iff _ statedBy_iff.symm

theorem StatedBy.isIdentifier {word : String} {p : Predicate} (h : StatedBy word p) :
    isIdentifier p.column = true := by
  unfold StatedBy at h
  split at h
  · exact h.column
  · exact h.1

/-- A filter word states one predicate. -/
theorem StatedBy.unique {kind : QueryKind} {word : String} {p p' : Predicate} (hfilter : isFilter kind word = true)
    (h : StatedBy word p) (h' : StatedBy word p') : p = p' := by
  unfold isFilter at hfilter
  unfold StatedBy at h h'
  cases hop : Token.operator? word with
  | none =>
    simp only [hop, ← Predicate.ofWord_eq_ok] at h h'
    exact Except.ok.inj (h.symm.trans h')
  | some symbol =>
    simp only [hop, Bool.and_eq_true, beq_iff_eq] at hfilter h h'
    obtain ⟨hcolumn, hequals, hword⟩ := h
    obtain ⟨hcolumn', hequals', hword'⟩ := h'
    rw [hfilter.2] at hword hword'
    -- cut at the operator the word gives back either pair of a column and a value
    have hkind : QueryKind.ofOperator "~=" ≠ .undetermined := by decide
    have hparts := splitAssignment_marked hcolumn hkind p.value
    have hparts' := splitAssignment_marked hcolumn' hkind p'.value
    rw [← hword] at hparts
    rw [← hword', hparts, Except.ok.injEq, Prod.mk.injEq] at hparts'
    cases p
    cases p'
    rw [Predicate.mk.injEq]
    exact ⟨hparts'.1, hequals.trans hequals'.symm, hparts'.2⟩

/-- An assignment in SQL and the word it is made of. -/
inductive AssignedBy : String → String → Prop where
  | sets (column value : String) (hcolumn : isIdentifier column = true)
      (hoperator : Token.operator? (column ++ ":=" ++ value) = some ":=") :
      AssignedBy (column ++ ":=" ++ value) (column ++ " = " ++ literal value)
  | changes (column value : String) (sign : Char) (hsign : sign ∈ ['+', '-', '*', '/', '%'])
      (hcolumn : isIdentifier column = true)
      (hoperator : Token.operator? (column ++ String.ofList [sign, '='] ++ value) =
        some (String.ofList [sign, '='])) :
      AssignedBy (column ++ String.ofList [sign, '='] ++ value)
        (column ++ " = " ++ column ++ " " ++ String.singleton sign ++ " " ++ literal value)

end Sql

namespace Query

open Sql

/-- The words of a query that filter rows. -/
def filterWords (q : Query) (kind : QueryKind) : List String :=
  q.words.filter (isFilter kind)

/-- The SQL of a kind on a table, before and after its filter. -/
inductive Around (q : Query) (table : String) : QueryKind → String → String → Prop where
  | select (limit : Option Nat) (hwords : q.filterWords .select = q.words) :
      Around q table .select
        ("SELECT " ++
          (if (q.bucket "+").isEmpty then "*" else ", ".intercalate (q.bucket "+")) ++ " FROM " ++ table)
        (columnClause "GROUP BY" (q.bucket "%") ++ columnClause "ORDER BY" (q.bucket "/") ++ limitClause limit)
  | update (assignments : List String)
      (hwords : List.Forall₂ AssignedBy (q.words.filter (!isFilter .update ·)) assignments) :
      Around q table .update ("UPDATE " ++ table ++ " SET " ++ ", ".intercalate assignments) ""
  | delete (hwords : q.filterWords .delete = q.words) :
      Around q table .delete ("DELETE FROM " ++ table) ""

/-! ## Filters -/

theorem isSome_wordCondition? (twoValued : Bool) (kind : QueryKind) (word : String) :
    (wordCondition? twoValued (marker? kind) word).isSome = isFilter kind word := by
  unfold wordCondition? isFilter
  cases hop : Token.operator? word with
  | none => rfl
  | some symbol =>
    cases kind <;> simp [marker?, QueryKind.deleteOperator, apply_ite Option.isSome, Bool.beq_eq_decide_eq]

/-- A condition is made of the predicate that its word states. -/
theorem statedBy_of_wordCondition? {twoValued : Bool} {marker : Option String} {word : String}
    {c : Condition} (h : wordCondition? twoValued marker word = some (.ok c)) :
    ∃ p, StatedBy word p ∧ c.toSql = conditionText twoValued p := by
  unfold wordCondition? at h
  unfold StatedBy
  cases hop : Token.operator? word with
  | none =>
    simp only [hop, Option.some.injEq, bind_eq_ok] at h
    obtain ⟨p, hp, hc⟩ := h
    exact ⟨p, Predicate.ofWord_eq_ok.mp hp, toSql_of_ofPredicate hc⟩
  | some symbol =>
    simp only [hop] at h
    split at h
    · simp only [Option.some.injEq, bind_eq_ok] at h
      obtain ⟨⟨column, value⟩, hparts, hc⟩ := h
      obtain ⟨hcolumn, hword⟩ := splitAssignment_eq_ok hparts
      exact ⟨⟨column, .equals, value⟩, ⟨hcolumn, rfl, hword⟩, toSql_of_ofPredicate hc⟩
    · cases h

/-- What a filter word states is what its condition is made of. -/
theorem wordCondition?_of_statedBy {twoValued : Bool} {kind : QueryKind} {word : String} {p : Predicate}
    (hfilter : isFilter kind word = true) (h : StatedBy word p) :
    wordCondition? twoValued (marker? kind) word = some (Condition.ofPredicate twoValued p) := by
  unfold isFilter at hfilter
  unfold StatedBy at h
  unfold wordCondition?
  cases hop : Token.operator? word with
  | none =>
    simp only [hop] at h
    simp only [Predicate.ofWord_eq_ok.mpr h]
    rfl
  | some symbol =>
    simp only [hop, Bool.and_eq_true, beq_iff_eq] at hfilter
    simp only [hop] at h
    obtain ⟨rfl, rfl⟩ := hfilter
    obtain ⟨hcolumn, hequals, hword⟩ := h
    have hparts : splitAssignment word "~=" = .ok (p.column, p.value) := by
      rw [hword]
      exact splitAssignment_marked hcolumn (by decide) p.value
    simp only [marker?, QueryKind.deleteOperator, ↓reduceIte, hparts, ← hequals]
    rfl

/-- What the stated predicates have each predicate has that a filter word states. -/
theorem forall_of_statedBy {q : Query} {kind : QueryKind} {predicates : List Predicate} {P : Predicate → Prop}
    (hstated : List.Forall₂ StatedBy (q.filterWords kind) predicates) (h : ∀ p ∈ predicates, P p) :
    ∀ word ∈ q.filterWords kind, ∀ p, StatedBy word p → P p := by
  intro word hword p hp
  obtain ⟨p', hp', hword'⟩ := exists_of_forall₂_right hstated.flip hword
  rw [hp.unique (List.mem_filter.mp hword).2 hword']
  exact h p' hp'

/-- The filter of words that state predicates has the conditions of these, in order. -/
theorem rowFilter_of_statedBy {q : Query} {kind : QueryKind} {predicates : List Predicate}
    (hq : q.Recorded) (hstated : List.Forall₂ StatedBy (q.filterWords kind) predicates)
    (hmissing : ∀ p ∈ predicates, isNull p.value = true →
      p.comparison.isEquality = true ∨ p.comparison.isNegation = true) :
    ∃ conditions, q.rowFilter (marker? kind) = .ok ⟨q.connective, conditions⟩ ∧
      List.Forall₂ (fun p c => Condition.ofPredicate (q.hasOption "2v") p = .ok c) predicates conditions := by
  obtain ⟨conditions, hconditions⟩ := exists_forall₂_of_forall fun p hp =>
    (exists_condition (q.hasOption "2v") (hmissing p hp)).imp fun _ hc => hc.1
  have hmade : q.words.filterMap (wordCondition? (q.hasOption "2v") (marker? kind)) =
      predicates.map (Condition.ofPredicate (q.hasOption "2v")) :=
    filterMap_of_forall₂ (isSome_wordCondition? _ kind) (fun _ _ hword hp => wordCondition?_of_statedBy hword hp)
      hstated
  refine ⟨conditions, ?_, hconditions⟩
  rw [rowFilter_eq hq, hmade]
  refine bind_eq_ok.mpr ⟨conditions, ?_, rfl⟩
  rw [mapM_eq_ok, List.forall₂_map_left_iff]
  exact hconditions

/-- Each filter word states one predicate, and the filter has their conditions, in order. -/
theorem rowFilter_filterWords {q : Query} {kind : QueryKind} {rows : RowFilter} (hq : q.Recorded)
    (h : q.rowFilter (marker? kind) = .ok rows) :
    rows.connective = q.connective ∧
      ∃ predicates, List.Forall₂ StatedBy (q.filterWords kind) predicates ∧
        rows.conditions.map Condition.toSql =
          predicates.map (conditionText (q.hasOption "2v")) := by
  rw [rowFilter_eq hq, bind_eq_ok] at h
  obtain ⟨conditions, hconditions, hrows⟩ := h
  cases hrows
  refine ⟨rfl, exists_forall₂ ?_⟩
  apply forall₂_of_filterMap (isSome_wordCondition? _ kind) _ (mapM_eq_ok.mp hconditions)
  intro word result c hresult hc
  exact statedBy_of_wordCondition? (hresult.trans (congrArg some hc))

/-- A filter is split at its connective into the conditions of its predicates. -/
theorem splitOutside_filter {rows : RowFilter} {predicates : List Predicate} {twoValued : Bool}
    (htexts : rows.conditions.map Condition.toSql = predicates.map (conditionText twoValued))
    (hnames : ∀ p ∈ predicates, isIdentifier p.column = true)
    (hvalues : ∀ p ∈ predicates, IsLiteral (Sql.literal p.value)) :
    (predicates = [] ∧ rows.toSql = "") ∨
      (predicates ≠ [] ∧ ∃ body, rows.toSql = " WHERE " ++ body ∧
        splitOutside rows.connective.toSql body = predicates.map (conditionText twoValued)) := by
  cases predicates with
  | nil =>
    have hnil : rows.conditions = [] := by simpa using htexts
    exact .inl ⟨rfl, by simp [RowFilter.toSql, hnil]⟩
  | cons p predicates =>
    have hne : rows.conditions.isEmpty = false := by
      cases hconditions : rows.conditions with
      | nil => simp [hconditions] at htexts
      | cons => rfl
    refine .inr ⟨by simp, _, by rw [RowFilter.toSql, hne]; rfl, ?_⟩
    rw [htexts]
    apply splitOutside_intercalate
    · cases rows.connective <;> decide
    · simp
    · intro text htext
      obtain ⟨p', hp', rfl⟩ := List.mem_map.mp htext
      exact passes_conditionText _ _ (hnames p' hp') (hvalues p' hp')

/-! ## Around the filter -/

theorem sigil_of_columnNames {q : Query} {sigil : String} {names : List String}
    (h : q.columnNames sigil = .ok names) : names = q.bucket sigil := by
  unfold columnNames at h
  dsimp only at h
  split at h
  · cases h
  · exact (Except.ok.inj h).symm

/-- The operators of assignments are `:=` and the arithmetical ones. -/
theorem eq_of_ofOperator {symbol : String} (h : QueryKind.ofOperator symbol = .update) :
    symbol = ":=" ∨
      ∃ sign ∈ ['+', '-', '*', '/', '%'], symbol = String.ofList [sign, '='] ∧ symbol ≠ ":=" := by
  have hmem := QueryKind.ofOperator_eq_update_iff.mp h
  simp only [QueryKind.updateOperators, List.mem_cons, List.not_mem_nil, or_false] at hmem
  rcases hmem with rfl | rfl | rfl | rfl | rfl | rfl
  · exact .inr ⟨'+', by decide, by decide, by decide⟩
  · exact .inr ⟨'-', by decide, by decide, by decide⟩
  · exact .inr ⟨'*', by decide, by decide, by decide⟩
  · exact .inr ⟨'/', by decide, by decide, by decide⟩
  · exact .inr ⟨'%', by decide, by decide, by decide⟩
  · exact .inl rfl

theorem assignedBy_of_assignment {word : String} {op : OperatorUse} {a : Assignment}
    (hop : Token.operator? word = some op.symbol) (h : assignment word op = .ok a) :
    AssignedBy word a.toSql := by
  rw [assignment_eq] at h
  split at h
  · rename_i hkind
    obtain ⟨⟨column, value⟩, hparts, ha⟩ := bind_eq_ok.mp h
    obtain ⟨hcolumn, hword⟩ := splitAssignment_eq_ok hparts
    cases ha
    rcases eq_of_ofOperator hkind with hset | ⟨sign, hsign, hsymbol, hne⟩
    · rw [hset] at hop hword
      subst hword
      rw [if_pos hset]
      exact .sets column value hcolumn hop
    · have hhead : op.symbol.toList.head? = some sign := by simp [hsymbol]
      rw [hsymbol] at hop hword
      subst hword
      rw [if_neg hne, hhead]
      exact .changes column value sign hsign hcolumn hop
  · cases h

theorem selection_around {q : Query} {table : String} {statement : Statement} (hq : q.Recorded)
    (h : q.selection table = .ok statement) :
    ∃ rows head tail, q.rowFilter none = .ok rows ∧ q.Around table .select head tail ∧
      statement.toSql = head ++ rows.toSql ++ tail := by
  simp only [selection, bind_eq_ok] at h
  obtain ⟨_, hrefuse, rows, hrows, groupBy, hgroup, orderBy, horder, limit, -, hstatement⟩ := h
  cases hstatement
  have hplain := (refuseWord_isSome hq).mp hrefuse
  have hwords : q.filterWords .select = q.words := by
    apply List.filter_eq_self.mpr
    intro word hword
    rw [isFilter, hplain word hword]
  refine ⟨rows, _, _, hrows, .select limit hwords, ?_⟩
  rw [sigil_of_columnNames hgroup, sigil_of_columnNames horder]
  simp only [Statement.toSql_select, commaList, columnSigil, groupSigil, orderSigil, String.append_assoc]

/-- Each other word is an assignment, in order. -/
theorem assignedBy_words {q : Query} {assignments : List Assignment} (hq : q.Recorded)
    (h : (q.plainWords.filterMap fun word => word.operator.map (assignment word.text)).mapM id =
      .ok assignments) :
    List.Forall₂ AssignedBy (q.words.filter (!isFilter .update ·))
      (assignments.map Assignment.toSql) := by
  rw [assignments_eq hq, mapM_eq_ok] at h
  rw [List.forall₂_map_right_iff]
  refine forall₂_of_filterMap ?_ ?_ h
  · intro word
    unfold assignmentOf? isFilter
    cases Token.operator? word <;> rfl
  · intro word result a hresult ha
    unfold assignmentOf? at hresult
    cases hop : Token.operator? word with
    | none => simp [hop] at hresult
    | some symbol =>
      rw [hop, Option.map_some, Option.some.injEq] at hresult
      exact assignedBy_of_assignment hop (hresult.trans ha)

theorem updating_around {q : Query} {table : String} {statement : Statement} (hq : q.Recorded)
    (h : q.updating table = .ok statement) :
    ∃ rows head tail, q.rowFilter none = .ok rows ∧ q.Around table .update head tail ∧
      statement.toSql = head ++ rows.toSql ++ tail := by
  simp only [updating, bind_eq_ok] at h
  obtain ⟨_, -, assignments, hassignments, h⟩ := h
  split at h
  · cases h
  · obtain ⟨rows, hrows, hstatement⟩ := bind_eq_ok.mp h
    cases hstatement
    refine ⟨rows, _, _, hrows, .update _ (assignedBy_words hq hassignments), ?_⟩
    simp only [Statement.toSql_update, commaList, String.append_empty, String.append_assoc]

theorem deletion_around {q : Query} {table : String} {statement : Statement} (hq : q.Recorded)
    (h : q.deletion table = .ok statement) :
    ∃ rows head tail, q.rowFilter (some QueryKind.deleteOperator) = .ok rows ∧
      q.Around table .delete head tail ∧ statement.toSql = head ++ rows.toSql ++ tail := by
  simp only [deletion, bind_eq_ok] at h
  obtain ⟨_, -, _, hrefuse, rows, hrows, hstatement⟩ := h
  cases hstatement
  have hplain := (refuseWord_delete hq).mp hrefuse
  have hwords : q.filterWords .delete = q.words := by
    apply List.filter_eq_self.mpr
    intro word hword
    unfold isFilter
    cases hop : Token.operator? word with
    | none => rfl
    | some symbol => simp [hplain word hword symbol hop, QueryKind.deleteOperator]
  refine ⟨rows, _, _, hrows, .delete hwords, ?_⟩
  simp only [Statement.toSql_delete, String.append_empty]

/-- The statement of a kind has its filter between two parts that the kind gives. -/
theorem statementOn_around {q : Query} {kind : QueryKind} {table : String} {statement : Statement}
    (hq : q.Recorded) (hkind : kind ≠ .insert) (h : q.statementOn kind table = .ok statement) :
    ∃ rows head tail, q.rowFilter (marker? kind) = .ok rows ∧ q.Around table kind head tail ∧
      statement.toSql = head ++ rows.toSql ++ tail := by
  cases kind with
  | select => exact selection_around hq h
  | insert => exact absurd rfl hkind
  | update => exact updating_around hq h
  | delete => exact deletion_around hq h
  | undetermined => cases h

/-! ## Whole lines -/

/-- SQL that has one condition for each filter word, in order, and no other filter. -/
def Filtered (q : Query) (kind : QueryKind) (sql : String) : Prop :=
  ∃ table predicates head tail, q.table.map TableRef.name = some table ∧
    List.Forall₂ StatedBy (q.filterWords kind) predicates ∧ q.Around table kind head tail ∧
    ((q.filterWords kind = [] ∧ sql = head ++ tail) ∨
      (q.filterWords kind ≠ [] ∧ ∃ body, sql = head ++ " WHERE " ++ body ++ tail ∧
        splitOutside (if q.hasOption "o" then " OR " else " AND ") body =
          predicates.map (conditionText (q.hasOption "2v"))))

theorem filtered_of_statement {q : Query} {kind : QueryKind} {statement : Statement} (hq : q.Recorded)
    (hstatement : q.statement kind = .ok statement) (hkind : kind ≠ .insert)
    (hvalues : ∀ word ∈ q.filterWords kind, ∀ p, StatedBy word p → isQuoted p.value = false) :
    q.Filtered kind statement.toSql := by
  rw [statement_eq] at hstatement
  obtain ⟨table, htable, hstatement⟩ := bind_eq_ok.mp hstatement
  obtain ⟨_, -, hstatement⟩ := bind_eq_ok.mp hstatement
  obtain ⟨rows, head, tail, hrows, haround, hsql⟩ := statementOn_around hq hkind hstatement
  obtain ⟨hconnective, predicates, hpredicates, htexts⟩ := rowFilter_filterWords hq hrows
  refine ⟨table, predicates, head, tail, tableName_eq_ok htable, hpredicates, haround, ?_⟩
  have hnames : ∀ p ∈ predicates, isIdentifier p.column = true := by
    intro p hp
    obtain ⟨word, -, hstated⟩ := exists_of_forall₂_right hpredicates hp
    exact hstated.isIdentifier
  have hliterals : ∀ p ∈ predicates, IsLiteral (Sql.literal p.value) := by
    intro p hp
    obtain ⟨word, hword, hstated⟩ := exists_of_forall₂_right hpredicates hp
    exact isLiteral_of_not_isQuoted (Bool.eq_false_iff.mp (hvalues word hword p hstated))
  have hempty : q.filterWords kind = [] ↔ predicates = [] := by
    rw [← List.length_eq_zero_iff, hpredicates.length_eq, List.length_eq_zero_iff]
  have hjoin : rows.connective.toSql = if q.hasOption "o" then " OR " else " AND " := by
    rw [hconnective, connective, apply_ite Connective.toSql]
    rfl
  rcases splitOutside_filter htexts hnames hliterals with ⟨hnone, hrowsSql⟩ | ⟨hsome, body, hbody, hsplit⟩
  · exact .inl ⟨hempty.mpr hnone, by rw [hsql, hrowsSql, String.append_empty]⟩
  · refine .inr ⟨fun h => hsome (hempty.mp h), body, ?_, ?_⟩
    · simp only [hsql, hbody, String.append_assoc]
    · rw [← hjoin, hsplit]

/-- No filter word of a line is lost or merged with another in its SQL. -/
theorem compile_keeps_filters (leader : String) (activeTable : Option String)
    (registry : OptionRegistry) (tokens : List String) {sql : String} {kind : QueryKind} :
    let q := (sortLine leader activeTable registry tokens).1
    q.literal = none → q.compile = .ok (sql, kind) → kind ≠ .insert →
      (∀ word ∈ q.filterWords kind, ∀ p, StatedBy word p → isQuoted p.value = false) →
      q.Filtered kind sql := by
  intro q hliteral hcompile hkind hvalues
  have hq : q.Recorded := Sorting.recorded_sortLine leader activeTable registry tokens
  rw [compile_eq hliteral] at hcompile
  obtain ⟨kind', -, hcompile⟩ := bind_eq_ok.mp hcompile
  obtain ⟨statement, hstatement, hok⟩ := bind_eq_ok.mp hcompile
  cases hok
  exact filtered_of_statement hq hstatement hkind hvalues

/-- The filter words of the update stand apart, and their values have connectives, quotes and parentheses. The
deletion is without two-valued logic, so that each of its comparisons is one of SQL. -/
theorem compile_keeps_filters_quoted :
    let tokens := ["users", "-o", "name!=it's OR (not", "age+=5", "-2v", "note= OR )'"]
    let update := (sortLine "\\" none .fresh tokens).1
    let updateSql := "UPDATE users SET age = age + 5 WHERE " ++
      "(name <> 'it''s OR (not' OR name IS NULL) OR note = ' OR )'''"
    let plainTokens := ["\\delete", "users", "name!=x AND y", "id==7", "age<>5", "size~=3", "rank<=2", "note==null"]
    let deletion := (sortLine "\\" none .fresh plainTokens).1
    let deletionSql := "DELETE FROM users WHERE name <> 'x AND y' AND id = 7 AND age <> 5 AND size = 3 AND " ++
      "rank <= 2 AND note IS NULL"
    update.filterWords .update = ["name!=it's OR (not", "note= OR )'"] ∧
      update.compile = .ok (updateSql, .update) ∧ update.Filtered .update updateSql ∧
      deletion.filterWords .delete = plainTokens.drop 2 ∧
      deletion.compile = .ok (deletionSql, .delete) ∧ deletion.Filtered .delete deletionSql := by
  intro tokens update updateSql plainTokens deletion deletionSql
  have hwords : update.filterWords .update = ["name!=it's OR (not", "note= OR )'"] := by decide +kernel
  have hcompile : update.compile = .ok (updateSql, .update) := by decide +kernel
  have hstated : List.Forall₂ StatedBy (update.filterWords .update)
      [⟨"name", .differs, "it's OR (not"⟩, ⟨"note", .equals, " OR )'"⟩] := by decide +kernel
  have hplainWords : deletion.filterWords .delete = plainTokens.drop 2 := by decide +kernel
  have hplainCompile : deletion.compile = .ok (deletionSql, .delete) := by decide +kernel
  have hplainStated : List.Forall₂ StatedBy (deletion.filterWords .delete)
      [⟨"name", .differs, "x AND y"⟩, ⟨"id", .equalsTwice, "7"⟩, ⟨"age", .differsAngled, "5"⟩,
        ⟨"size", .equals, "3"⟩, ⟨"rank", .atMost, "2"⟩, ⟨"note", .equalsTwice, "null"⟩] := by decide +kernel
  exact ⟨hwords, hcompile,
    compile_keeps_filters "\\" none .fresh tokens (by decide +kernel) hcompile (by decide)
      (forall_of_statedBy hstated (by decide)),
    hplainWords, hplainCompile,
    compile_keeps_filters "\\" none .fresh plainTokens (by decide +kernel) hplainCompile (by decide)
      (forall_of_statedBy hplainStated (by decide))⟩

end Query

end TerseQuery
