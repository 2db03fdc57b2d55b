import TerseQuery.Proofs.Query.Deduction
import TerseQuery.Proofs.Sql.Words
import TerseQuery.Proofs.Terse.Reference

/-!
# Completeness of the terse language

Every well-spelled line compiles, and to the SQL that its items stand for.

* `Spells.deduceKind`: the kind is the one that the items fit;
* `Spells.exists_rows`: the filter is that of the reference;
* `compile_complete`: a line of items that fit a kind compiles to the reference SQL of that kind.
-/

namespace TerseQuery

open Sql

theorem joined_rows {rows : RowFilter} {texts : List String}
    (h : rows.conditions.map Condition.toSql = texts) :
    rows.toSql = joined " WHERE " rows.connective.toSql texts := by
  subst h
  unfold RowFilter.toSql
  cases rows.conditions <;> rfl

theorem columnClause_eq (clause : String) (names : List String) :
    columnClause clause names = joined (" " ++ clause ++ " ") ", " names := by
  cases names <;> rfl

theorem shown_eq (names : List String) :
    (if names.isEmpty then "*" else commaList names) = shown names := by
  cases names <;> rfl

theorem limitClause_eq (limit : Option Nat) : limitClause limit = atMost limit := by
  cases limit <;> rfl

namespace Item

/-! ## Items and their words -/

variable {kind : QueryKind} {item : Item}

theorem condition_word (h : item.Fits kind) (twoValued : Bool) :
    TellsAlike ((item.wordAt? conditionSigil).bind
      (Query.wordCondition? twoValued (Query.marker? kind))) Condition.toSql
      (item.condition? twoValued) := by
  cases h with
  | @predicate _ p hkind hp =>
    obtain ⟨c, hc, htext⟩ := exists_condition twoValued hp.isEquality_or_isNegation
    refine .inr ⟨c, ?_, by rw [htext]; rfl⟩
    simp only [wordAt?_predicate, ↓reduceIte, Option.bind_some, Query.wordCondition?,
      Token.operator?_text hp.column hp.value, hp.ofWord_text]
    exact congrArg some hc
  | @assignment column operator value hcolumn hoperator =>
    have hupdate := QueryKind.ofOperator_eq_update_iff.mpr hoperator
    have hne : operator ≠ "~=" := by
      rintro rfl
      revert hupdate
      decide
    have hop := Token.operator?_marked hcolumn (by rw [hupdate]; decide) value
    refine .inl ⟨?_, by simp [condition?, hne]⟩
    simp [Query.wordCondition?, hop, Query.marker?]
  | @pair column value hcolumn =>
    have hop : Token.operator? (column ++ ".=" ++ value) = some ".=" :=
      Token.operator?_marked hcolumn (by decide) value
    refine .inl ⟨?_, by simp [condition?]⟩
    simp [Query.wordCondition?, hop, Query.marker?]
  | @marker column value hcolumn =>
    have hop : Token.operator? (column ++ "~=" ++ value) = some "~=" :=
      Token.operator?_marked hcolumn (by decide) value
    have hparts : splitAssignment (column ++ "~=" ++ value) "~=" = .ok (column, value) :=
      splitAssignment_marked hcolumn.isIdentifier (by decide) value
    obtain ⟨c, hc, htext⟩ := exists_condition twoValued (p := ⟨column, .equals, value⟩) fun _ => .inl rfl
    refine .inr ⟨c, ?_, by simp [condition?, htext]⟩
    simp only [wordAt?_marked, ↓reduceIte, Option.bind_some, Query.wordCondition?, hop, Query.marker?,
      QueryKind.deleteOperator, hparts]
    exact congrArg some hc
  | shown | grouped | ordered => exact .inl ⟨by simp [conditionSigil], rfl⟩
  | limit | anyOf | twoValued => exact .inl ⟨rfl, rfl⟩

theorem assignment_word (h : item.Fits .update) :
    TellsAlike ((item.wordAt? conditionSigil).bind Query.assignmentOf?) Assignment.toSql
      item.assignment? := by
  cases h with
  | @predicate _ p hkind hp =>
    refine .inl ⟨?_, rfl⟩
    simp [Query.assignmentOf?, Token.operator?_text hp.column hp.value]
  | @assignment column operator value hcolumn hoperator =>
    have hupdate := QueryKind.ofOperator_eq_update_iff.mpr hoperator
    have hdetermined : QueryKind.ofOperator operator ≠ .undetermined := by rw [hupdate]; decide
    have hop := Token.operator?_marked hcolumn hdetermined value
    have hparts := splitAssignment_marked hcolumn.isIdentifier hdetermined value
    refine .inr ⟨⟨column, if operator = ":=" then none else operator.toList.head?, literal value⟩, ?_, ?_⟩
    · simp only [wordAt?_marked, ↓reduceIte, Option.bind_some, Option.map_some, Query.assignmentOf?, hop,
        Query.assignment_eq, hupdate, hparts]
      rfl
    · by_cases hset : operator = ":="
      · simp [assignment?, Assignment.toSql, hset]
      · obtain ⟨sign, hsign, -⟩ := QueryKind.exists_sign hdetermined
        have hhead : operator.toList.head? = some sign := by rw [hsign, String.toList_ofList]; rfl
        have hlast : String.ofList operator.toList.dropLast = String.singleton sign := by
          rw [hsign, String.toList_ofList]
          rfl
        simp only [assignment?, Assignment.toSql, hset, ↓reduceIte, hhead, hlast]
  | limit | anyOf | twoValued => exact .inl ⟨rfl, rfl⟩

theorem pair_word (h : item.Fits .insert) (q : Query) :
    TellsAlike ((item.wordAt? conditionSigil).map
      fun word => q.insertPair (Query.recordedWord (word, 0))) (fun pair => (pair.column, pair.literal))
      item.pair? := by
  cases h with
  | predicate hkind => exact absurd rfl hkind
  | @pair column value hcolumn =>
    have hop : Token.operator? (column ++ ".=" ++ value) = some ".=" :=
      Token.operator?_marked hcolumn (by decide) value
    have hparts : splitAssignment (column ++ ".=" ++ value) ".=" = .ok (column, value) :=
      splitAssignment_marked hcolumn.isIdentifier (by decide) value
    refine .inr ⟨⟨column, literal value⟩, ?_, rfl⟩
    simp only [wordAt?_marked, ↓reduceIte, Option.map_some, Query.insertPair, Query.recordedWord, hop,
      QueryKind.insertOperator, hparts]
    rfl
  | limit | anyOf | twoValued => exact .inl ⟨rfl, rfl⟩

theorem filterMap_ne_nil {α : Type} {items : List Item} {f : Item → Option α}
    (hmarked : ∃ item ∈ items, item.isMarked = true)
    (hf : ∀ column operator value, (f (.marked column operator value)).isSome = true) :
    items.filterMap f ≠ [] := by
  obtain ⟨item, hitem, hmark⟩ := hmarked
  cases item with
  | marked column operator value =>
    obtain ⟨a, ha⟩ := Option.isSome_iff_exists.mp (hf column operator value)
    exact List.ne_nil_of_mem (List.mem_filterMap.mpr ⟨_, hitem, ha⟩)
  | _ => cases hmark

end Item

namespace Spells

variable {table : String} {items : List Item} {kind : QueryKind} {q : Query}

section
variable (hq : Spells table items q) (hfits : ∀ item ∈ items, item.Fits kind)
include hq

/-! ## Options -/

theorem hasOption_iff {key : String} (hkey : key ∈ askedKeys) :
    q.hasOption key = true ↔ ∃ item ∈ items, ∃ value, item.option? = some (key, value) := by
  rw [Query.hasOption, Dict.contains, hq.options key hkey, OptionMap.lastValue?, Option.isSome_map,
    List.getLast?_isSome]
  simp only [ne_eq, List.filter_eq_nil_iff, List.mem_filterMap, decide_eq_true_eq, not_forall]
  constructor
  · rintro ⟨⟨own, value⟩, ⟨item, hitem, hoption⟩, hsame⟩
    have hown : own = key := of_not_not hsame
    subst hown
    exact ⟨item, hitem, value, hoption⟩
  · rintro ⟨item, hitem, value, hoption⟩
    exact ⟨(key, value), ⟨item, hitem, hoption⟩, not_not.mpr rfl⟩

/-- An option is in effect if its item is there. -/
theorem hasOption_eq {key : String} {own : Item} (hkey : key ∈ askedKeys)
    (hown : ∀ item : Item, (∃ value, item.option? = some (key, value)) ↔ item = own) :
    q.hasOption key = decide (own ∈ items) := by
  rw [Bool.eq_iff_iff, hq.hasOption_iff hkey, decide_eq_true_eq]
  simp only [hown, exists_eq_right]

theorem hasOption_any : q.hasOption "o" = decide (Item.anyOf ∈ items) := by
  apply hq.hasOption_eq (by decide)
  intro item
  cases item <;> simp [Item.option?]

theorem hasOption_twoValued : q.hasOption "2v" = decide (Item.twoValued ∈ items) := by
  apply hq.hasOption_eq (by decide)
  intro item
  cases item <;> simp [Item.option?]

/-- No item is a flag that asks for a kind. -/
theorem hasOption_flag {key : String} (hkey : key ∈ ["I", "U", "D"]) : q.hasOption key = false := by
  have hasked : ∀ key ∈ ["I", "U", "D"], key ∈ askedKeys ∧ key ∉ ["limit", "o", "2v"] := by decide
  obtain ⟨hkey, hother⟩ := hasked key hkey
  cases hoption : q.hasOption key with
  | false => rfl
  | true =>
    obtain ⟨item, -, value, hitem⟩ := (hq.hasOption_iff hkey).mp hoption
    exact absurd (Item.mem_of_option? hitem) hother

theorem connective_toSql :
    q.connective.toSql = if .anyOf ∈ items then " OR " else " AND " := by
  rw [Query.connective, hq.hasOption_any, apply_ite Connective.toSql]
  simp only [decide_eq_true_eq]
  rfl

theorem bucket_eq (sigil : String) (hsigil : sigil ≠ conditionSigil) :
    q.bucket sigil = namesUnder sigil items := by
  rw [hq.bucket, namesUnder]
  apply List.filterMap_congr
  intro item _
  cases item with
  | predicate | marked => simp [Item.listed?, hsigil.symm]
  | listed own name => simp [Item.listed?]
  | limit | anyOf | twoValued => rfl

include hfits

theorem limit_eq : q.limit = .ok (lastLimit? items) := by
  have hlimits : (items.filterMap Item.option?).filter (·.1 = "limit") =
      (items.filterMap Item.limit?).map fun n => ("limit", .text (toString n)) := by
    rw [List.filter_filterMap, List.map_filterMap]
    apply List.filterMap_congr
    intro item _
    cases item <;> simp [Item.option?, Item.limit?]
  have htext : q.optionText? "limit" = (lastLimit? items).map toString := by
    rw [lastLimit?, Query.optionText?, OptionMap.text?, hq.options "limit" (by decide),
      OptionMap.lastValue?, hlimits, List.getLast?_map]
    cases (items.filterMap Item.limit?).getLast? <;> rfl
  unfold Query.limit
  rw [htext]
  cases hlast : lastLimit? items with
  | none => rfl
  | some n =>
    obtain ⟨item, hitem, hlimit⟩ := List.mem_filterMap.mp (List.mem_of_getLast? hlast)
    have hbound : n < UInt64.size := by
      cases hfits item hitem with
      | limit hn =>
        cases hlimit
        exact hn
      | _ => cases hlimit
    simp only [Option.map_some, Text.natural?_toString hbound]

/-! ## Words -/

theorem exists_item {sigil word : String} (hword : word ∈ q.bucket sigil) :
    ∃ item ∈ items, item.place? = some (sigil, word) ∧ item.Located sigil word := by
  rw [hq.bucket, List.mem_filterMap] at hword
  obtain ⟨item, hitem, hat⟩ := hword
  simp only [Item.wordAt?, Option.map_eq_some_iff, Option.filter_eq_some_iff] at hat
  obtain ⟨⟨own, found⟩, ⟨hplace, hown⟩, rfl⟩ := hat
  have hsigil : own = sigil := by simpa using hown
  subst hsigil
  exact ⟨item, hitem, hplace, (hfits item hitem).located hplace⟩

theorem words_eq : q.words = items.filterMap (Item.wordAt? conditionSigil) := by
  rw [← hq.bucket]
  apply List.filter_eq_self.mpr
  intro word hword
  obtain ⟨item, -, -, hlocated⟩ := hq.exists_item hfits hword
  simpa using hlocated.starts.ne_empty

theorem exists_operator {op : OperatorUse} (hop : op ∈ q.operators) :
    op.sigil = conditionSigil ∧ ∃ item ∈ items, item.operator? = some op.symbol := by
  obtain ⟨word, hword, hsymbol⟩ := (hq.recorded.mem op).mp hop
  obtain ⟨item, hitem, -, hlocated⟩ := hq.exists_item hfits (List.mem_of_getElem? hword)
  rw [hlocated.operator] at hsymbol
  exact ⟨hlocated.plain (by simp [hsymbol]), item, hitem, hsymbol⟩

theorem refuseForeign : q.refuseForeign = .ok () := by
  have hknown : q.buckets.entries.find? (fun bucket => !knownSigils.contains bucket.1) = none := by
    rw [List.find?_eq_none]
    intro entry hentry
    obtain ⟨word, hword⟩ := List.exists_mem_of_ne_nil _ (hq.inhabited entry hentry)
    obtain ⟨item, -, -, hlocated⟩ := hq.exists_item hfits hword
    simpa using hlocated.known
  have hplain : q.operators.find? (fun op => op.sigil ≠ conditionSigil) = none := by
    rw [List.find?_eq_none]
    intro op hop
    simpa using (hq.exists_operator hfits hop).1
  simp only [Query.refuseForeign, hknown, hplain]

theorem exists_determined {item : Item} (hitem : item ∈ items) (hmark : item.isMarked = true) :
    ∃ op ∈ q.operators, (QueryKind.ofOperator op.symbol).isDetermined = true := by
  cases item with
  | marked column operator value =>
    have hlocated : (Item.marked column operator value).Located conditionSigil
        (column ++ operator ++ value) := (hfits _ hitem).located rfl
    have hword : column ++ operator ++ value ∈ q.bucket conditionSigil := by
      rw [hq.bucket, List.mem_filterMap]
      exact ⟨_, hitem, rfl⟩
    obtain ⟨index, hindex⟩ := List.getElem?_of_mem hword
    have hop : (⟨operator, conditionSigil, index⟩ : OperatorUse) ∈ q.operators :=
      (hq.recorded.mem _).mpr ⟨_, hindex, hlocated.operator⟩
    refine ⟨_, hop, ?_⟩
    rw [(hfits _ hitem).ofOperator rfl]
    cases hfits _ hitem <;> rfl
  | _ => cases hmark

/-! ## Kinds -/

theorem deduceKind (hmarked : kind ≠ .select → ∃ item ∈ items, item.isMarked = true) :
    q.deduceKind = .ok kind := by
  have hexplicit : q.explicitIndicator = .ok none := by
    have hflags : q.flagIndicators = [] := by
      simp [Query.flagIndicators, Query.kindFlags, hq.hasOption_flag]
    simp [Query.explicitIndicator, Query.commandIndicator?, hq.command, hflags, agree?]
  have hkinds : ∀ indicator ∈ q.operatorIndicators, indicator.kind = kind := by
    intro indicator hindicator
    obtain ⟨op, hop, rfl⟩ := List.mem_map.mp hindicator
    obtain ⟨-, item, hitem, hsymbol⟩ := hq.exists_operator hfits (List.mem_filter.mp hop).1
    exact (hfits item hitem).ofOperator hsymbol
  have hsome : kind ≠ .select → q.operatorIndicators ≠ [] := by
    intro hselect
    obtain ⟨item, hitem, hmark⟩ := hmarked hselect
    obtain ⟨op, hop, hkind⟩ := hq.exists_determined hfits hitem hmark
    exact List.ne_nil_of_mem (List.mem_map_of_mem (List.mem_filter.mpr ⟨hop, hkind⟩))
  have hagreeing : Agreeing q.operatorIndicators :=
    fun a ha b hb => (hkinds a ha).trans (hkinds b hb).symm
  simp only [Query.deduceKind, hexplicit, agree?_of_agreeing hagreeing]
  cases hindicators : q.operatorIndicators with
  | nil =>
    have hselect : kind = .select := Classical.byContradiction fun hselect => hsome hselect hindicators
    rw [hselect]
    rfl
  | cons first rest =>
    rw [← hkinds first (by simp [hindicators])]
    rfl

/-! ## Statements -/

theorem exists_rows :
    ∃ rows, q.rowFilter (Query.marker? kind) = .ok rows ∧ rows.toSql = filterClause items := by
  have htwo : q.hasOption "2v" = decide (.twoValued ∈ items) := hq.hasOption_twoValued
  obtain ⟨conditions, hconditions, htexts⟩ := exists_mapM_filterMap fun item hitem =>
    Item.condition_word (hfits item hitem) (decide (.twoValued ∈ items))
  refine ⟨⟨q.connective, conditions⟩, ?_, ?_⟩
  · rw [Query.rowFilter_eq hq.recorded, hq.words_eq hfits, List.filterMap_filterMap, htwo, hconditions]
    rfl
  · rw [joined_rows htexts, hq.connective_toSql]
    rfl

theorem columnNames_eq {sigil : String} (hsigil : sigil = groupSigil ∨ sigil = orderSigil) :
    q.columnNames sigil = .ok (q.bucket sigil) := by
  have hnames : (q.bucket sigil).find? (fun word => !isIdentifier word) = none := by
    rw [List.find?_eq_none]
    intro word hword
    obtain ⟨item, -, -, hlocated⟩ := hq.exists_item hfits hword
    simp [hlocated.name hsigil]
  simp only [Query.columnNames, hnames]

/-- Only a selection lists names. -/
theorem refuseSelection (hkind : kind ≠ .select) : q.refuseSelection = .ok () := by
  have hempty : ∀ sigil ∈ selectionSigils, q.bucket sigil = [] := by
    intro sigil hsigil
    apply List.eq_nil_iff_forall_not_mem.mpr
    intro word hword
    obtain ⟨item, hitem, hplace, -⟩ := hq.exists_item hfits hword
    have hplain : sigil ≠ conditionSigil := by
      rintro rfl
      revert hsigil
      decide
    cases hfits item hitem with
    | shown | grouped | ordered => exact hkind rfl
    | limit | anyOf | twoValued => cases hplace
    | _ =>
      cases hplace
      exact hplain rfl
  have hnone : (selectionSigils.findSome? fun sigil => (q.bucket sigil).head?.map (sigil ++ ·)) = none := by
    rw [List.findSome?_eq_none_iff]
    intro sigil hsigil
    rw [hempty sigil hsigil]
    rfl
  simp only [Query.refuseSelection, hnone]

theorem selection (hkind : kind = .select) :
    ∃ statement, q.selection table = .ok statement ∧ statement.toSql = reference table items .select := by
  subst hkind
  obtain ⟨rows, hrows, htext⟩ := hq.exists_rows hfits
  have hplain : Query.refuseWord q.plainWords (fun word => word.operator.isSome) = .ok () := by
    rw [Query.refuseWord_isSome hq.recorded]
    intro word hword
    obtain ⟨item, hitem, -, hlocated⟩ := hq.exists_item hfits (List.mem_of_mem_filter hword)
    rw [hlocated.operator]
    cases hfits item hitem <;> rfl
  have hgroup := hq.columnNames_eq hfits (.inl rfl)
  have horder := hq.columnNames_eq hfits (.inr rfl)
  refine ⟨.select (q.bucket columnSigil) table rows (q.bucket groupSigil) (q.bucket orderSigil)
    (lastLimit? items), ?_, ?_⟩
  · have hnone : q.rowFilter none = .ok rows := hrows
    simp only [Query.selection, hplain, hnone, hgroup, horder, hq.limit_eq hfits]
    rfl
  · rw [Statement.toSql_select, htext, shown_eq, columnClause_eq, columnClause_eq, limitClause_eq,
      hq.bucket_eq columnSigil (by decide), hq.bucket_eq groupSigil (by decide),
      hq.bucket_eq orderSigil (by decide)]
    rfl

theorem insertion (hkind : kind = .insert) (hmarked : ∃ item ∈ items, item.isMarked = true) :
    ∃ statement, q.insertion table = .ok statement ∧ statement.toSql = reference table items .insert := by
  subst hkind
  obtain ⟨pairs, hpairs, htexts⟩ := exists_mapM_filterMap fun item hitem =>
    Item.pair_word (hfits item hitem) q
  have hmade : q.plainWords.mapM q.insertPair = .ok pairs := by
    have hword : ∀ place, q.insertPair (Query.recordedWord place) =
        q.insertPair (Query.recordedWord (place.1, 0)) := by
      intro place
      unfold Query.insertPair Query.recordedWord
      cases Token.operator? place.1 <;> rfl
    rw [Query.mapM_plainWords (g := fun word => q.insertPair (Query.recordedWord (word, 0)))
      hq.recorded hword, hq.words_eq hfits, ← hpairs, ← List.map_filterMap, List.mapM_map]
    rfl
  have hempty : pairs.isEmpty = false := by
    have hne := Item.filterMap_ne_nil hmarked (f := Item.pair?) fun _ _ _ => rfl
    rw [← htexts] at hne
    simpa using hne
  refine ⟨.insert table pairs, ?_, ?_⟩
  · simp only [Query.insertion, hq.refuseSelection hfits (by decide), hmade, bind, Except.bind, hempty,
      Bool.false_eq_true, ↓reduceIte]
    rfl
  · rw [Statement.toSql_insert]
    have hcolumns : pairs.map InsertPair.column = (items.filterMap Item.pair?).map Prod.fst := by
      rw [← htexts, List.map_map]
      rfl
    have hliterals : pairs.map InsertPair.literal = (items.filterMap Item.pair?).map Prod.snd := by
      rw [← htexts, List.map_map]
      rfl
    rw [hcolumns, hliterals]
    rfl

theorem updating (hkind : kind = .update) (hmarked : ∃ item ∈ items, item.isMarked = true) :
    ∃ statement, q.updating table = .ok statement ∧ statement.toSql = reference table items .update := by
  subst hkind
  obtain ⟨rows, hrows, htext⟩ := hq.exists_rows hfits
  obtain ⟨assignments, hassignments, htexts⟩ := exists_mapM_filterMap fun item hitem =>
    Item.assignment_word (hfits item hitem)
  rw [← List.filterMap_filterMap, ← hq.words_eq hfits, ← Query.assignments_eq hq.recorded] at hassignments
  have hempty : assignments.isEmpty = false := by
    have hne := Item.filterMap_ne_nil hmarked (f := Item.assignment?) fun _ _ _ => rfl
    rw [← htexts] at hne
    simpa using hne
  have hnone : q.rowFilter none = .ok rows := hrows
  refine ⟨.update table assignments rows, ?_, ?_⟩
  · simp only [Query.updating, hq.refuseSelection hfits (by decide), hassignments, hnone, bind,
      Except.bind, hempty, Bool.false_eq_true, ↓reduceIte]
    rfl
  · rw [Statement.toSql_update, htext, htexts]
    rfl

theorem deletion (hkind : kind = .delete) :
    ∃ statement, q.deletion table = .ok statement ∧ statement.toSql = reference table items .delete := by
  subst hkind
  obtain ⟨rows, hrows, htext⟩ := hq.exists_rows hfits
  have hmarkers : Query.refuseWord q.plainWords
      (fun word => word.operator.any fun op => op.symbol ≠ QueryKind.deleteOperator) = .ok () := by
    rw [Query.refuseWord_delete hq.recorded]
    intro word hword symbol hsymbol
    obtain ⟨item, hitem, -, hlocated⟩ := hq.exists_item hfits (List.mem_of_mem_filter hword)
    rw [hlocated.operator] at hsymbol
    cases hfits item hitem with
    | marker => cases hsymbol; rfl
    | _ => cases hsymbol
  refine ⟨.delete table rows, ?_, ?_⟩
  · have hsome : q.rowFilter (some QueryKind.deleteOperator) = .ok rows := hrows
    simp only [Query.deletion, hq.refuseSelection hfits (by decide), hmarkers, hsome]
    rfl
  · rw [Statement.toSql_delete, htext]
    rfl

/-- The statement of a well-spelled line is the one that its items stand for. -/
theorem statement (hmarked : kind ≠ .select → ∃ item ∈ items, item.isMarked = true) :
    ∃ statement, q.statementOn kind table = .ok statement ∧
      statement.toSql = reference table items kind := by
  cases kind with
  | select => exact hq.selection hfits rfl
  | insert => exact hq.insertion hfits rfl (hmarked (by decide))
  | update => exact hq.updating hfits rfl (hmarked (by decide))
  | delete => exact hq.deletion hfits rfl
  | undetermined =>
    obtain ⟨item, hitem, hmark⟩ := hmarked (by decide)
    cases hfits item hitem <;> cases hmark

end

end Spells

/-- A table and items that fit a kind compile to the SQL they stand for, whatever the order of the items. -/
theorem compile_complete {table : String} {items : List Item} {kind : QueryKind}
    (htable : IsName table) (hfits : ∀ item ∈ items, item.Fits kind)
    (hmarked : kind ≠ .select → ∃ item ∈ items, item.isMarked = true) :
    (sortLine "\\" none .fresh (table :: items.map Item.token)).1.compile =
      .ok (reference table items kind, kind) := by
  have hq := spells_sortLine htable hfits
  generalize (sortLine "\\" none .fresh (table :: items.map Item.token)).1 = q at hq
  obtain ⟨statement, hstatement, hsql⟩ := hq.statement hfits hmarked
  have hname : q.tableName = .ok table := by
    simp [Query.tableName, hq.table, htable.isIdentifier]
  rw [Query.compile_eq hq.literal, hq.deduceKind hfits hmarked]
  simp only [Query.statement_eq, hname, hq.refuseForeign hfits, hstatement, bind, Except.bind, hsql]

/-- The values of the update have `=`, quotes and parentheses, and its options stand between its items. The
selection is without two-valued logic, so that each of its comparisons is one of SQL. -/
theorem compile_complete_mixed :
    let changes : List Item := [.twoValued, .predicate ⟨"name", .differs, "o'neil (x"⟩,
      .marked "age" "/=" "=5", .predicate ⟨"u.left", .equalsTwice, "null"⟩, .anyOf, .limit 3,
      .marked "note" ":=" "it's"]
    let shows : List Item := [.predicate ⟨"a", .equalsTwice, "b"⟩, .listed "/" "c", .predicate ⟨"c", .differs, "5"⟩,
      .listed "+" "a", .predicate ⟨"d", .differsAngled, "Null"⟩, .predicate ⟨"e", .above, "x OR y"⟩, .limit 7]
    changes.map Item.token = ["-2v", "name!=o'neil (x", "age/==5", "u.left==null", "-o", "-limit=3", "note:=it's"] ∧
      reference "app.users" changes .update = "UPDATE app.users SET age = age / '=5', note = 'it''s'" ++
        " WHERE (name <> 'o''neil (x' OR name IS NULL) OR u.left IS NULL" ∧
      (sortLine "\\" none .fresh ("app.users" :: changes.map Item.token)).1.compile =
        .ok (reference "app.users" changes .update, .update) ∧
      shows.map Item.token = ["a==b", "/c", "c!=5", "+a", "d<>Null", "e>x OR y", "-limit=7"] ∧
      reference "t" shows .select = "SELECT a FROM t WHERE a = 'b' AND c <> 5 AND d IS NOT NULL AND e > 'x OR y'" ++
        " ORDER BY c LIMIT 7" ∧
      (sortLine "\\" none .fresh ("t" :: shows.map Item.token)).1.compile =
        .ok (reference "t" shows .select, .select) := by
  intro changes shows
  have hchanges : ∀ item ∈ changes, item.Fits .update := by
    simp only [changes, List.forall_mem_cons]
    exact ⟨.twoValued, .predicate (by decide) ⟨by decide, by decide, by decide, by decide +kernel⟩,
      .assignment _ (by decide) (by decide),
      .predicate (by decide) ⟨by decide, by decide, by decide, by decide +kernel⟩, .anyOf,
      .limit (by decide), .assignment _ (by decide) (by decide), by simp⟩
  have hshows : ∀ item ∈ shows, item.Fits .select := by
    simp only [shows, List.forall_mem_cons]
    exact ⟨.predicate (by decide) ⟨by decide, by decide, by decide, by decide +kernel⟩, .ordered (by decide),
      .predicate (by decide) ⟨by decide, by decide, by decide, by decide +kernel⟩,
      .shown (by decide) (by decide),
      .predicate (by decide) ⟨by decide, by decide, by decide, by decide +kernel⟩,
      .predicate (by decide) ⟨by decide, by decide, by decide, by decide +kernel⟩, .limit (by decide), by simp⟩
  have hmarked : ∃ item ∈ changes, item.isMarked = true := ⟨.marked "age" "/=" "=5", by decide, rfl⟩
  exact ⟨by decide +kernel, by decide +kernel, compile_complete (by decide) hchanges fun _ => hmarked,
    by decide +kernel, by decide +kernel, compile_complete (by decide) hshows fun hselect => absurd rfl hselect⟩

end TerseQuery
