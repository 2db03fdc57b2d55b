import TerseQuery.Proofs.Query.Interleaving
import TerseQuery.Proofs.Sql.Conditions

/-!
# Statements without gaps

A statement lists names and literals apart by commas. Each of these comes from a word that was read as a name,
or as a name with a value, so none is empty. Only the words of the select list are taken as they stand.

* `isWhole_of_statement`: the names of a statement are names, and its lists have no gaps;
* `selected_of_statement`: the select list holds the words with the sigil of columns;
* `compile_whole`: both, for whole lines, and the tokens that leave a gap in the select list;
* `compile_empty_entry`: a line with such a token.
-/

namespace TerseQuery

namespace Sql

/-! ## What a statement lists -/

/-- The column that a condition is about. -/
def Condition.column : Condition → String
  | .isNull column => column
  | .isNotNull column => column
  | .compares column _ _ => column
  | .differsOrNull column _ => column

def RowFilter.columns (f : RowFilter) : List String :=
  f.conditions.map Condition.column

namespace Statement

/-- The entries of the select list. -/
def selected : Statement → List String
  | .select columns .. => columns
  | _ => []

/-- All other lists of a statement. -/
def lists : Statement → List (List String)
  | .select _ _ _ groupBy orderBy _ => [groupBy, orderBy]
  | .insert _ pairs => [pairs.map InsertPair.column, pairs.map InsertPair.literal]
  | .update _ assignments _ => [assignments.map Assignment.toSql]
  | .delete .. => []

/-- What has to be a name: the table and the columns, those of the select list apart. -/
def names : Statement → List String
  | .select _ table rows groupBy orderBy _ => table :: (rows.columns ++ (groupBy ++ orderBy))
  | .insert table pairs => table :: pairs.map InsertPair.column
  | .update table assignments rows => table :: (assignments.map Assignment.column ++ rows.columns)
  | .delete table rows => table :: rows.columns

/-- The values that columns get. -/
def assigned : Statement → List String
  | .insert _ pairs => pairs.map InsertPair.literal
  | .update _ assignments _ => assignments.map Assignment.literal
  | _ => []

/-- A statement without gaps, the select list apart. -/
structure IsWhole (s : Statement) : Prop where
  names : ∀ name ∈ s.names, isIdentifier name = true
  elements : ∀ list ∈ s.lists, "" ∉ list
  values : "" ∉ s.assigned
  /-- An insertion lists as many columns as values, at least one. -/
  inserted : ∀ table pairs, s = .insert table pairs →
    (pairs.map InsertPair.column).length = (pairs.map InsertPair.literal).length ∧
      0 < (pairs.map InsertPair.column).length
  updated : ∀ table assignments rows, s = .update table assignments rows → assignments ≠ []

end Statement

/-! ## Names and literals -/

theorem ne_empty_of_isIdentifier {name : String} (h : isIdentifier name = true) : name ≠ "" :=
  (isIdentifier_iff.mp h).1

theorem not_mem_of_isIdentifier {names : List String} (h : ∀ name ∈ names, isIdentifier name = true) :
    "" ∉ names :=
  fun hmem => ne_empty_of_isIdentifier (h "" hmem) rfl

/-- No value is written as nothing. The empty text is written as two quotes. -/
theorem literal_ne_empty (value : String) : literal value ≠ "" := by
  unfold literal
  split
  · decide
  · split
    · rintro rfl
      contradiction
    · split
      · rintro rfl
        contradiction
      · rw [← String.toList_inj.ne, quote, String.toList_ofList]
        exact List.cons_ne_nil _ _

theorem not_mem_map_literal {α : Type} {f : α → String} {items : List α}
    (h : ∀ item ∈ items, ∃ value, f item = literal value) : "" ∉ items.map f := by
  intro hmem
  obtain ⟨item, hitem, hempty⟩ := List.mem_map.mp hmem
  obtain ⟨value, hvalue⟩ := h item hitem
  exact literal_ne_empty value (hvalue.symm.trans hempty)

theorem column_of_ofPredicate {twoValued : Bool} {p : Predicate} {c : Condition}
    (h : Condition.ofPredicate twoValued p = .ok c) : c.column = p.column := by
  cases says_of_ofPredicate h <;> rfl

theorem Assignment.toSql_ne_empty {a : Assignment} (h : isIdentifier a.column = true) : a.toSql ≠ "" := by
  intro hempty
  unfold Assignment.toSql at hempty
  have hcolumn : a.column = "" := by
    split at hempty <;> simp_all
  exact ne_empty_of_isIdentifier h hcolumn

end Sql

namespace Query

open Sql

variable {q : Query} {table : String} {s : Statement}

/-! ## Words that are read -/

theorem isIdentifier_of_condition? {marker : Option String} {word : PlainWord} {c : Condition}
    (h : q.condition? marker word = some (.ok c)) : isIdentifier c.column = true := by
  unfold condition? at h
  dsimp only at h
  split at h
  · obtain ⟨p, hp, hc⟩ := bind_eq_ok.mp (Option.some.inj h)
    rw [column_of_ofPredicate hc]
    exact (Predicate.ofWord_eq_ok.mp hp).column
  · split at h
    · obtain ⟨⟨column, value⟩, hparts, hc⟩ := bind_eq_ok.mp (Option.some.inj h)
      rw [column_of_ofPredicate hc]
      exact (splitAssignment_eq_ok hparts).1
    · cases h

theorem isIdentifier_of_rowFilter {marker : Option String} {rows : RowFilter}
    (h : q.rowFilter marker = .ok rows) : ∀ name ∈ rows.columns, isIdentifier name = true := by
  obtain ⟨conditions, hmade, hrows⟩ := bind_eq_ok.mp h
  cases hrows
  intro name hname
  obtain ⟨c, hc, rfl⟩ := List.mem_map.mp hname
  obtain ⟨made, hmem, hok⟩ := exists_of_forall₂_right (mapM_eq_ok.mp hmade) hc
  obtain ⟨word, -, hword⟩ := List.mem_filterMap.mp hmem
  exact isIdentifier_of_condition? (hword.trans (congrArg some hok))

theorem insertPair_eq_ok {word : PlainWord} {pair : InsertPair} (h : q.insertPair word = .ok pair) :
    isIdentifier pair.column = true ∧ ∃ value, pair.literal = Sql.literal value := by
  unfold insertPair at h
  split at h
  · split at h
    · obtain ⟨⟨column, value⟩, hparts, hpair⟩ := bind_eq_ok.mp h
      cases hpair
      exact ⟨(splitAssignment_eq_ok hparts).1, value, rfl⟩
    · cases h
  · split at h
    · obtain ⟨p, hp, hpair⟩ := bind_eq_ok.mp h
      split at hpair
      · cases hpair
        exact ⟨(Predicate.ofWord_eq_ok.mp hp).column, p.value, rfl⟩
      · cases hpair
    · cases h

theorem assignment_eq_ok {text : String} {op : OperatorUse} {a : Assignment}
    (h : assignment text op = .ok a) :
    isIdentifier a.column = true ∧ ∃ value, a.literal = Sql.literal value := by
  rw [assignment_eq] at h
  split at h
  · obtain ⟨⟨column, value⟩, hparts, ha⟩ := bind_eq_ok.mp h
    cases ha
    exact ⟨(splitAssignment_eq_ok hparts).1, value, rfl⟩
  · cases h

theorem columnNames_eq_ok {sigil : String} {names : List String} (h : q.columnNames sigil = .ok names) :
    ∀ name ∈ names, isIdentifier name = true := by
  unfold columnNames at h
  dsimp only at h
  split at h
  · cases h
  · rename_i hnone
    cases h
    intro name hname
    simpa using List.find?_eq_none.mp hnone name hname

theorem isIdentifier_of_tableName (h : q.tableName = .ok table) : isIdentifier table = true := by
  unfold tableName at h
  split at h
  · cases h
  · split at h
    · rename_i hname
      cases h
      exact hname
    · cases h

theorem bucket_of_refuseSelection (h : q.refuseSelection = .ok ()) : q.bucket columnSigil = [] := by
  unfold refuseSelection at h
  split at h
  · cases h
  · rename_i hnone
    have hcolumns := List.findSome?_eq_none_iff.mp hnone columnSigil List.mem_cons_self
    rwa [Option.map_eq_none_iff, List.head?_eq_none_iff] at hcolumns

/-! ## Statements by kind -/

section
variable (htable : isIdentifier table = true)
include htable

theorem isWhole_of_selection (h : q.selection table = .ok s) :
    s.IsWhole ∧ s.selected = q.bucket columnSigil := by
  simp only [selection, bind_eq_ok] at h
  obtain ⟨_, -, rows, hrows, groupBy, hgroup, orderBy, horder, limit, -, hs⟩ := h
  cases hs
  have hgroup := columnNames_eq_ok hgroup
  have horder := columnNames_eq_ok horder
  refine ⟨⟨?_, ?_, List.not_mem_nil, by rintro _ _ ⟨⟩, by rintro _ _ _ ⟨⟩⟩, rfl⟩
  · simp only [Statement.names, List.forall_mem_cons, List.forall_mem_append]
    exact ⟨htable, isIdentifier_of_rowFilter hrows, hgroup, horder⟩
  · simp only [Statement.lists, List.forall_mem_cons]
    exact ⟨not_mem_of_isIdentifier hgroup, not_mem_of_isIdentifier horder, List.forall_mem_nil _⟩

theorem isWhole_of_insertion (h : q.insertion table = .ok s) :
    s.IsWhole ∧ s.selected = q.bucket columnSigil := by
  simp only [insertion, bind_eq_ok] at h
  obtain ⟨_, hrefuse, pairs, hpairs, h⟩ := h
  have hpair : ∀ pair ∈ pairs, isIdentifier pair.column = true ∧ ∃ value, pair.literal = Sql.literal value := by
    intro pair hmem
    obtain ⟨word, -, hword⟩ := exists_of_forall₂_right (mapM_eq_ok.mp hpairs) hmem
    exact insertPair_eq_ok hword
  have hnames : ∀ name ∈ pairs.map InsertPair.column, isIdentifier name = true :=
    List.forall_mem_map.mpr fun pair hmem => (hpair pair hmem).1
  have hvalues : "" ∉ pairs.map InsertPair.literal :=
    not_mem_map_literal fun pair hmem => (hpair pair hmem).2
  split at h
  · cases h
  · rename_i hne
    cases h
    refine ⟨⟨?_, ?_, hvalues, ?_, by rintro _ _ _ ⟨⟩⟩, (bucket_of_refuseSelection hrefuse).symm⟩
    · simp only [Statement.names, List.forall_mem_cons]
      exact ⟨htable, hnames⟩
    · simp only [Statement.lists, List.forall_mem_cons]
      exact ⟨not_mem_of_isIdentifier hnames, hvalues, List.forall_mem_nil _⟩
    · rintro _ _ ⟨⟩
      simpa [List.length_pos_iff] using hne

theorem isWhole_of_updating (h : q.updating table = .ok s) :
    s.IsWhole ∧ s.selected = q.bucket columnSigil := by
  simp only [updating, bind_eq_ok] at h
  obtain ⟨_, hrefuse, assignments, hassignments, h⟩ := h
  have hassignment : ∀ a ∈ assignments,
      isIdentifier a.column = true ∧ ∃ value, a.literal = Sql.literal value := by
    intro a hmem
    obtain ⟨made, hmade, hok⟩ := exists_of_forall₂_right (mapM_eq_ok.mp hassignments) hmem
    obtain ⟨word, -, hword⟩ := List.mem_filterMap.mp hmade
    obtain ⟨op, -, hop⟩ := Option.map_eq_some_iff.mp hword
    exact assignment_eq_ok (hop.trans hok)
  split at h
  · cases h
  · rename_i hne
    obtain ⟨rows, hrows, hs⟩ := bind_eq_ok.mp h
    cases hs
    have hvalues := not_mem_map_literal fun a hmem => (hassignment a hmem).2
    refine ⟨⟨?_, ?_, hvalues, by rintro _ _ ⟨⟩, ?_⟩, (bucket_of_refuseSelection hrefuse).symm⟩
    · simp only [Statement.names, List.forall_mem_cons, List.forall_mem_append]
      exact ⟨htable, List.forall_mem_map.mpr fun a hmem => (hassignment a hmem).1,
        isIdentifier_of_rowFilter hrows⟩
    · simp only [Statement.lists, List.forall_mem_cons]
      refine ⟨fun hmem => ?_, List.forall_mem_nil _⟩
      obtain ⟨a, ha, hempty⟩ := List.mem_map.mp hmem
      exact Assignment.toSql_ne_empty (hassignment a ha).1 hempty
    · rintro _ _ _ ⟨⟩
      simpa using hne

theorem isWhole_of_deletion (h : q.deletion table = .ok s) :
    s.IsWhole ∧ s.selected = q.bucket columnSigil := by
  simp only [deletion, bind_eq_ok] at h
  obtain ⟨_, hrefuse, _, -, rows, hrows, hs⟩ := h
  cases hs
  refine ⟨⟨?_, List.forall_mem_nil _, List.not_mem_nil, by rintro _ _ ⟨⟩, by rintro _ _ _ ⟨⟩⟩,
    (bucket_of_refuseSelection hrefuse).symm⟩
  simp only [Statement.names, List.forall_mem_cons]
  exact ⟨htable, isIdentifier_of_rowFilter hrows⟩

end

/-- A statement has no gaps, and its select list is what the words with the sigil of columns are. -/
theorem isWhole_of_statement {kind : QueryKind} (h : q.statement kind = .ok s) :
    s.IsWhole ∧ s.selected = q.bucket columnSigil := by
  rw [statement_eq] at h
  obtain ⟨table, htable, h⟩ := bind_eq_ok.mp h
  obtain ⟨_, -, h⟩ := bind_eq_ok.mp h
  have hname := isIdentifier_of_tableName htable
  cases kind with
  | select => exact isWhole_of_selection hname h
  | insert => exact isWhole_of_insertion hname h
  | update => exact isWhole_of_updating hname h
  | delete => exact isWhole_of_deletion hname h
  | undetermined => cases h

/-! ## Whole lines -/

/-- An entry of the select list is empty if its token is the sigil alone. -/
theorem mem_bucket_columnSigil {leader : String} {activeTable : Option String} {registry : OptionRegistry}
    {tokens : List String} (h : (sortLine leader activeTable registry tokens).1.literal = none) :
    "" ∈ (sortLine leader activeTable registry tokens).1.bucket columnSigil ↔
      "+" ∈ (splitCommand leader tokens).2 := by
  cases hliteral : Sorting.isLiteralLine leader tokens with
  | false =>
    rw [Sorting.sortLine_eq activeTable registry hliteral, Sorting.bucket_placed]
    generalize (splitCommand leader tokens).2 = rest
    have hplain : ∀ token ∈ Sorting.tokensOf columnSigil rest, ¬ Token.isPlainName token = true := by
      intro token htoken hname
      have hsigil := (List.mem_filter.mp htoken).2
      rw [Sorting.sigil_of_isPlainName hname] at hsigil
      simp [columnSigil] at hsigil
    rw [Sorting.wordsOf_wordTokens, List.eraseP_of_forall_not hplain, ite_self]
    constructor
    · intro hmem
      obtain ⟨token, htoken, hword⟩ := List.mem_map.mp hmem
      obtain ⟨hrest, hsigil⟩ := List.mem_filter.mp htoken
      simp only [Bool.and_eq_true, beq_iff_eq] at hsigil
      have htoken := Token.sigil_append_word token
      rw [hsigil.2, hword, String.append_empty] at htoken
      rwa [← htoken] at hrest
    · intro hmem
      have hsigil : (!Token.isOption "+" && Token.sigil "+" == columnSigil) = true := by decide
      exact List.mem_map.mpr ⟨"+", List.mem_filter.mpr ⟨hmem, hsigil⟩, by decide⟩
  | true =>
    rw [Sorting.sortLine_eq_placedLiteral activeTable registry hliteral] at h ⊢
    -- literal SQL without any SQL has options only
    have hdrop : (splitCommand leader tokens).2.dropWhile Token.isStrictOption = [] := by
      by_contra hne
      simp [Sorting.placedLiteral, Sorting.joined?, hne] at h
    have hoptions := List.dropWhile_eq_nil_iff.mp hdrop
    refine ⟨fun hmem => ?_, fun hmem => ?_⟩
    · cases hmem
    · exact absurd (hoptions "+" hmem) (by decide)

/-- The statement of a line has no gaps, and its select list has one exactly if one of the tokens behind the
command is a plus sign alone. -/
theorem compile_whole (leader : String) (activeTable : Option String) (registry : OptionRegistry)
    (tokens : List String) {sql : String} {kind : QueryKind} :
    let q := (sortLine leader activeTable registry tokens).1
    q.literal = none → q.compile = .ok (sql, kind) →
      ∃ statement, q.statement kind = .ok statement ∧ sql = statement.toSql ∧ statement.IsWhole ∧
        ("" ∈ statement.selected ↔ "+" ∈ (splitCommand leader tokens).2) := by
  intro q hliteral hcompile
  rw [compile_eq hliteral] at hcompile
  obtain ⟨kind', -, hcompile⟩ := bind_eq_ok.mp hcompile
  obtain ⟨statement, hstatement, hok⟩ := bind_eq_ok.mp hcompile
  cases hok
  obtain ⟨hwhole, hselected⟩ := isWhole_of_statement hstatement
  refine ⟨statement, hstatement, rfl, hwhole, ?_⟩
  rw [hselected]
  exact mem_bucket_columnSigil hliteral

/-- Entries that are no names, empty tokens, and a value that is empty. -/
theorem compile_whole_expressions :
    let tokens := ["", "orders", "+city", "+count(*)", "", "note=", "%city", "/city", "-limit=10"]
    let q := (sortLine "\\" none .fresh tokens).1
    let sql := "SELECT city, count(*) FROM orders WHERE note = '' GROUP BY city ORDER BY city LIMIT 10"
    q.literal = none ∧ q.compile = .ok (sql, .select) ∧
      ∃ statement, q.statement .select = .ok statement ∧ sql = statement.toSql ∧ statement.IsWhole ∧
        "" ∉ statement.selected := by
  intro tokens q sql
  have hliteral : q.literal = none := by decide +kernel
  have hcompile : q.compile = .ok (sql, .select) := by decide +kernel
  have hplus : "+" ∉ (splitCommand "\\" tokens).2 := by decide +kernel
  obtain ⟨statement, hstatement, hsql, hwhole, hselected⟩ :=
    compile_whole "\\" none .fresh tokens hliteral hcompile
  exact ⟨hliteral, hcompile, statement, hstatement, hsql, hwhole, fun hmem => hplus (hselected.mp hmem)⟩

/-- A plus sign alone becomes an empty entry of the select list, and nothing stands where the columns should. -/
theorem compile_empty_entry :
    let q := (sortLine "\\" none .fresh ["users", "+"]).1
    let statement := Statement.select [""] "users" ⟨.all, []⟩ [] [] none
    q.literal = none ∧ q.compile = .ok ("SELECT  FROM users", .select) ∧
      q.statement .select = .ok statement ∧ statement.toSql = "SELECT  FROM users" ∧
      "" ∈ statement.selected := by
  decide +kernel

end Query

end TerseQuery
