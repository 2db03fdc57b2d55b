import TerseQuery.Proofs.Options.Tokens
import TerseQuery.Proofs.Query.Interleaving
import TerseQuery.Proofs.StableSort

/-!
# Printing sorted lines

The tokens of a sorted line are its options, its table and its words bucket by bucket. Sorting them again
gives the line back, but for operators: they stand in the order of their buckets then.

* `printedWords_placed`: the words are printed as the tokens that they came from, sorted by sigil;
* `operatorUses_sortBy`: operators follow their words when these are sorted;
* `placed_printedBody`: what is printed after the command is placed as before;
* `sortLine_toTokens`: all of it for whole lines, and when a printed line is taken for a command instead.
-/

namespace TerseQuery

/-! ## Texts with a known start -/

theorem Text.strip?_append (start rest : String) : Text.strip? (start ++ rest) start = some rest := by
  have hprefix : start.toList.isPrefixOf (start ++ rest).toList = true := by
    rw [List.isPrefixOf_iff_prefix, String.toList_append]
    exact List.prefix_append _ _
  rw [Text.strip?, if_pos hprefix, String.toList_append, ← String.length_toList, List.drop_left,
    String.ofList_toList]

theorem Text.strip?_eq_none {s start : String} (h : ¬ start.toList <+: s.toList) :
    Text.strip? s start = none := by
  rw [Text.strip?, if_neg]
  rwa [List.isPrefixOf_iff_prefix]

namespace Sorting

/-! ## Operators of sorted words -/

theorem filter_operatorUses (sigil : String) (earlier tokens : List String) :
    (operatorUses earlier tokens).filter (·.sigil == sigil) =
      operatorUses (earlier.filter (Token.sigil · == sigil)) (tokens.filter (Token.sigil · == sigil)) := by
  induction tokens generalizing earlier with
  | nil => rfl
  | cons token rest ih =>
    rw [operatorUses, List.filter_append, ih, List.filter_append]
    by_cases hs : Token.sigil token = sigil
    · have hearlier : wordsOf sigil (earlier.filter (Token.sigil · == sigil)) = wordsOf sigil earlier := by
        rw [wordsOf, List.filter_filter]
        simp only [Bool.and_self]
        rfl
      rw [List.filter_cons_of_pos (by simp [hs]), List.filter_cons_of_pos (by simp [hs]), List.filter_nil,
        operatorUses, hs, hearlier]
      cases Token.operator? (Token.word token) <;> simp
    · rw [List.filter_cons_of_neg (by simp [hs]), List.filter_cons_of_neg (by simp [hs]), List.filter_nil,
        List.append_nil]
      cases Token.operator? (Token.word token) <;> simp [hs]

theorem sigils_operatorUses_sublist (earlier tokens : List String) :
    ((operatorUses earlier tokens).map OperatorUse.sigil).Sublist (tokens.map Token.sigil) := by
  induction tokens generalizing earlier with
  | nil => exact .slnil
  | cons token rest ih =>
    rw [operatorUses, List.map_cons]
    cases Token.operator? (Token.word token) with
    | none => exact (ih _).cons _
    | some symbol => exact (ih _).cons_cons _

/-- Operators stand in the order of their words. -/
theorem operatorUses_sortBy (tokens : List String) :
    operatorUses [] (sortBy Token.sigil tokens) = sortBy OperatorUse.sigil (operatorUses [] tokens) := by
  apply eq_sortBy
  · have hwords : ((sortBy Token.sigil tokens).map Token.sigil).Pairwise (· ≤ ·) :=
      List.pairwise_map.mpr (pairwise_sortBy tokens)
    exact List.pairwise_map.mp (hwords.sublist (sigils_operatorUses_sublist [] _))
  · intro sigil
    rw [filter_operatorUses, filter_operatorUses, filter_sortBy]

/-! ## Printed words -/

/-- The words of a query as tokens, bucket by bucket. -/
def printedWords (q : Query) : List String :=
  q.buckets.entries.flatMap fun bucket => bucket.2.map (bucket.1 ++ ·)

theorem map_append_wordsOf (sigil : String) (tokens : List String) :
    (wordsOf sigil tokens).map (sigil ++ ·) = tokens.filter (Token.sigil · == sigil) := by
  have hself : ∀ token ∈ tokens.filter (Token.sigil · == sigil), sigil ++ Token.word token = token := by
    intro token htoken
    have hsigil : Token.sigil token = sigil := by simpa using (List.mem_filter.mp htoken).2
    rw [← hsigil, Token.sigil_append_word]
  rw [wordsOf, List.map_map]
  exact (List.map_congr_left hself).trans (List.map_id _)

theorem wordsOf_sortBy (sigil : String) (tokens : List String) :
    wordsOf sigil (sortBy Token.sigil tokens) = wordsOf sigil tokens := by
  rw [wordsOf, filter_sortBy]
  rfl

section
variable (command activeTable : Option String) (registry : OptionRegistry) (rest : List String)

/-- Words are printed as the tokens that they came from, sorted by sigil. -/
theorem printedWords_placed :
    printedWords (placed command activeTable registry rest).1 =
      sortBy Token.sigil (wordTokens (lineTakesTable command activeTable) rest) := by
  have hget := get?_buckets_placed command activeTable registry rest
  have hbucket : ∀ bucket ∈ (placed command activeTable registry rest).1.buckets.entries,
      bucket.2.map (bucket.1 ++ ·) =
        (wordTokens (lineTakesTable command activeTable) rest).filter (Token.sigil · == bucket.1) := by
    intro bucket hmem
    have hwords := Dict.get?_of_mem hmem
    rw [hget] at hwords
    split at hwords
    · cases hwords
    · rw [← Option.some.inj hwords, map_append_wordsOf]
  rw [printedWords, List.flatMap_congr hbucket,
    ← List.flatMap_map Prod.fst fun sigil =>
      (wordTokens (lineTakesTable command activeTable) rest).filter (Token.sigil · == sigil)]
  apply flatMap_filter_eq_sortBy
  · exact List.pairwise_map.mpr (placed command activeTable registry rest).1.buckets.sorted
  · intro token htoken
    have hword : Token.word token ∈
        wordsOf (Token.sigil token) (wordTokens (lineTakesTable command activeTable) rest) :=
      List.mem_map_of_mem (List.mem_filter.mpr ⟨htoken, by simp⟩)
    have hfound := hget (Token.sigil token)
    rw [if_neg (List.ne_nil_of_mem hword)] at hfound
    exact List.mem_map.mpr ⟨_, Dict.mem_of_get? hfound, rfl⟩

/-! ## What is printed after the command -/

/-- The token of a table that a token named. -/
def printedTable (q : Query) : List String :=
  ((q.table.filter fun table => !table.configured).map TableRef.name).toList

/-- The tokens of a query without its command. -/
def printedBody (q : Query) : List String :=
  q.options.entries.map Query.optionToken ++ printedTable q ++ printedWords q

theorem toTokens_eq {q : Query} (h : q.literal = none) (leader : String) :
    q.toTokens leader = (q.command.map (leader ++ ·)).toList ++ printedBody q := by
  simp only [Query.toTokens, h, printedBody, printedTable, printedWords, List.append_assoc]

theorem table_placed :
    (placed command activeTable registry rest).1.table =
      (activeTable.map (⟨·, true⟩) <|>
        (tableToken? (lineTakesTable command activeTable) rest).map (⟨·, false⟩)) := rfl

theorem printedTable_placed :
    printedTable (placed command activeTable registry rest).1 =
      (tableToken? (lineTakesTable command activeTable) rest).toList := by
  cases activeTable with
  | some name => simp [printedTable, placed, lineTakesTable, tableToken?]
  | none =>
    simp only [printedTable, placed]
    cases tableToken? (lineTakesTable command none) rest <;> rfl

theorem not_isPlainName_of_tableToken? (h : tableToken? true rest = none) {token : String}
    (htoken : token ∈ wordTokens true rest) : Token.isPlainName token = false := by
  have hmem : token ∈ rest.filter (!Token.isOption ·) := List.mem_of_mem_eraseP htoken
  simpa using List.find?_eq_none.mp h token hmem

theorem isOption_of_mem_plain {token : String}
    (h : token ∈ printedTable (placed command activeTable registry rest).1 ++
      printedWords (placed command activeTable registry rest).1) : Token.isOption token = false := by
  rcases List.mem_append.mp h with htable | hword
  · rw [printedTable_placed, Option.mem_toList] at htable
    exact Token.not_isOption_of_sigil_eq (sigil_of_isPlainName (isPlainName_of_tableToken? htable))
  · rw [printedWords_placed, mem_sortBy] at hword
    exact isOption_of_mem_wordTokens hword

variable {command activeTable registry rest}
variable (hoptions : ∀ option ∈ (placed command activeTable registry rest).1.options.entries,
  IsTokenOption option)
include hoptions

theorem isOption_of_mem_options {token : String}
    (h : token ∈ (placed command activeTable registry rest).1.options.entries.map Query.optionToken) :
    Token.isOption token = true := by
  obtain ⟨option, hmem, rfl⟩ := List.mem_map.mp h
  exact isOption_optionToken (hoptions option hmem)

theorem filter_isOption_printedBody :
    (printedBody (placed command activeTable registry rest).1).filter Token.isOption =
      (placed command activeTable registry rest).1.options.entries.map Query.optionToken := by
  have hoption := List.filter_eq_self.mpr fun _ => isOption_of_mem_options hoptions
  have hplain : (printedTable (placed command activeTable registry rest).1 ++
      printedWords (placed command activeTable registry rest).1).filter Token.isOption = [] := by
    rw [List.filter_eq_nil_iff]
    intro token htoken
    simp [isOption_of_mem_plain _ _ _ _ htoken]
  rw [printedBody, List.append_assoc, List.filter_append, hoption, hplain, List.append_nil]

theorem filter_not_isOption_printedBody :
    (printedBody (placed command activeTable registry rest).1).filter (!Token.isOption ·) =
      (tableToken? (lineTakesTable command activeTable) rest).toList ++
        sortBy Token.sigil (wordTokens (lineTakesTable command activeTable) rest) := by
  have hoption : ((placed command activeTable registry rest).1.options.entries.map
      Query.optionToken).filter (!Token.isOption ·) = [] := by
    rw [List.filter_eq_nil_iff]
    intro token htoken
    simp [isOption_of_mem_options hoptions htoken]
  have hplain : (printedTable (placed command activeTable registry rest).1 ++
      printedWords (placed command activeTable registry rest).1).filter (!Token.isOption ·) =
      printedTable (placed command activeTable registry rest).1 ++
        printedWords (placed command activeTable registry rest).1 := by
    rw [List.filter_eq_self]
    intro token htoken
    simp [isOption_of_mem_plain _ _ _ _ htoken]
  rw [printedBody, List.append_assoc, List.filter_append, hoption, hplain, List.nil_append,
    printedTable_placed, printedWords_placed]

/-- The table is the first plain name that is printed, and all else are words. -/
theorem table_words_printedBody :
    tableToken? (lineTakesTable command activeTable)
        (printedBody (placed command activeTable registry rest).1) =
      tableToken? (lineTakesTable command activeTable) rest ∧
    wordTokens (lineTakesTable command activeTable)
        (printedBody (placed command activeTable registry rest).1) =
      sortBy Token.sigil (wordTokens (lineTakesTable command activeTable) rest) := by
  have hfilter := filter_not_isOption_printedBody hoptions
  cases htakes : lineTakesTable command activeTable with
  | false =>
    rw [htakes] at hfilter
    refine ⟨rfl, ?_⟩
    simp only [wordTokens, Bool.false_eq_true, ↓reduceIte, hfilter]
    rfl
  | true =>
    rw [htakes] at hfilter
    cases hname : tableToken? true rest with
    | some token =>
      have hplain := isPlainName_of_tableToken? hname
      rw [hname] at hfilter
      constructor
      · simp [tableToken?, hfilter, hplain]
      · rw [wordTokens, if_pos rfl, hfilter]
        simp [hplain]
    | none =>
      have hnone : ∀ token ∈ sortBy Token.sigil (wordTokens true rest),
          ¬ Token.isPlainName token = true := by
        intro token htoken
        simp [not_isPlainName_of_tableToken? rest hname (mem_sortBy.mp htoken)]
      rw [hname, Option.toList_none, List.nil_append] at hfilter
      constructor
      · rw [tableToken?, if_pos rfl, hfilter, List.find?_eq_none.mpr hnone]
      · rw [wordTokens, if_pos rfl, hfilter, List.eraseP_of_forall_not hnone]

/-- What is printed after the command is placed as before; the operators stand in the order of their
buckets. -/
theorem placed_printedBody (hreachable : registry.Reachable) :
    (placed command activeTable .fresh
        (printedBody (placed command activeTable registry rest).1)).1 =
      { (placed command activeTable registry rest).1 with
        operators := sortBy OperatorUse.sigil (placed command activeTable registry rest).1.operators } := by
  obtain ⟨htable, hwords⟩ := table_words_printedBody hoptions
  have hafter := hreachable.setTokens (rest.filter Token.isOption)
  have heffective := effective_setTokens_optionTokens hafter.exclusive_effective hafter.plainKeys_effective
    hoptions
  have hbuckets : (placed command activeTable .fresh
        (printedBody (placed command activeTable registry rest).1)).1.buckets =
      (placed command activeTable registry rest).1.buckets := by
    apply Dict.ext_get?
    intro sigil
    rw [get?_buckets_placed, get?_buckets_placed, hwords, wordsOf_sortBy]
  have hoperators : (placed command activeTable .fresh
        (printedBody (placed command activeTable registry rest).1)).1.operators =
      sortBy OperatorUse.sigil (placed command activeTable registry rest).1.operators := by
    rw [operators_placed, operators_placed, hwords, operatorUses_sortBy]
  rw [← hoperators]
  apply eq_with_operators
  · exact (command_placed _ _ _ _).trans (command_placed _ _ _ _).symm
  · rw [table_placed, table_placed, htable]
  · rw [options_placed, filter_isOption_printedBody hoptions]
    exact heffective
  · exact hbuckets
  · exact (literal_placed _ _ _ _).trans (literal_placed _ _ _ _).symm
  · exact (kind_placed _ _ _ _).trans (kind_placed _ _ _ _).symm

end

/-! ## Whole lines -/

/-- Whether a printed line is read as it was meant: it starts with its command, or with nothing that would be
taken for a command. -/
def KeepsCommand (leader : String) (q : Query) : Prop :=
  q.command.isSome ∨ leader = "" ∨
    ∀ first, (q.toTokens leader).head? = some first → ¬ leader.toList <+: first.toList

theorem leader_ne_empty {leader name : String} {tokens : List String}
    (h : (splitCommand leader tokens).1 = some name) : leader ≠ "" := by
  rintro rfl
  unfold splitCommand at h
  split at h <;> simp at h

theorem splitCommand_leader {leader : String} (h : leader ≠ "") (name : String) (rest : List String) :
    splitCommand leader ((leader ++ name) :: rest) = (some name, rest) := by
  simp [splitCommand, h, Text.strip?_append]

/-- A printed line is split where it was, if it keeps its command. -/
theorem splitCommand_toTokens {leader : String} {q : Query} (hliteral : q.literal = none)
    (hleader : ∀ name, q.command = some name → leader ≠ "") (h : KeepsCommand leader q) :
    splitCommand leader (q.toTokens leader) = (q.command, printedBody q) := by
  have htokens := toTokens_eq hliteral leader
  cases hcommand : q.command with
  | some name =>
    rw [htokens, hcommand]
    exact splitCommand_leader (hleader name hcommand) name (printedBody q)
  | none =>
    rw [hcommand, Option.map_none, Option.toList_none, List.nil_append] at htokens
    rw [KeepsCommand, htokens] at h
    rw [htokens]
    cases hbody : printedBody q with
    | nil => rfl
    | cons first rest =>
      rcases h with hsome | hempty | hfirst
      · simp [hcommand] at hsome
      · simp [splitCommand, hempty]
      · have hnone := Text.strip?_eq_none (hfirst first (by rw [hbody]; rfl))
        simp [splitCommand, hnone]

/-- A printed line that does not keep its lack of a command has one. -/
theorem isSome_splitCommand_toTokens {leader : String} {q : Query} (h : ¬ KeepsCommand leader q) :
    q.command = none ∧ (splitCommand leader (q.toTokens leader)).1.isSome := by
  simp only [KeepsCommand, not_or, not_forall, not_not] at h
  obtain ⟨hcommand, hleader, first, hfirst, hprefix⟩ := h
  refine ⟨by simpa using hcommand, ?_⟩
  obtain ⟨rest, hrest⟩ := List.head?_eq_some_iff.mp hfirst
  have hstrip : Text.strip? first leader = some (String.ofList (first.toList.drop leader.length)) := by
    rw [Text.strip?, if_pos (List.isPrefixOf_iff_prefix.mpr hprefix)]
  simp [hrest, splitCommand, hleader, hstrip]

/-- A sorted line printed and sorted again, with no options set before. It comes back, its operators in the
order of their buckets, unless its first token is taken for a command that the line did not have. All options
that tokens set are printed as the tokens of options. -/
theorem sortLine_toTokens (leader : String) (activeTable : Option String) (registry : OptionRegistry)
    (tokens : List String) (hreachable : registry.Reachable)
    (hliteral : isLiteralLine leader tokens = false)
    (hoptions : ∀ option ∈ (sortLine leader activeTable registry tokens).1.options.entries,
      IsTokenOption option) :
    let q := (sortLine leader activeTable registry tokens).1
    let again := (sortLine leader activeTable .fresh (q.toTokens leader)).1
    (∀ token, Token.isOption token = true → IsTokenOption (parseOption token)) ∧
      (KeepsCommand leader q →
        again = { q with operators := sortBy OperatorUse.sigil q.operators } ∧
          ((∀ a ∈ q.operators, ∀ b ∈ q.operators, a.sigil = b.sigil) → again = q)) ∧
      (¬ KeepsCommand leader q → again.isExplicit = true ∧ again ≠ q) := by
  intro q again
  have hq : q = (placed (splitCommand leader tokens).1 activeTable registry (splitCommand leader tokens).2).1 :=
    congrArg Prod.fst (sortLine_eq activeTable registry hliteral)
  have hcommand : q.command = (splitCommand leader tokens).1 := command_sortLine _ _ _ _
  have hagain : again.command = (splitCommand leader (q.toTokens leader)).1 := command_sortLine _ _ _ _
  refine ⟨fun token => isTokenOption_parseOption, fun hkeeps => ?_, fun hkeeps => ?_⟩
  · have hsplit : splitCommand leader (q.toTokens leader) = (q.command, printedBody q) := by
      refine splitCommand_toTokens ?_ ?_ hkeeps
      · rw [hq]
        exact literal_placed _ _ _ _
      · intro name hname
        exact leader_ne_empty (hcommand ▸ hname)
    -- the command is the same, and so the printed line is no literal SQL either
    have hliteral' : isLiteralLine leader (q.toTokens leader) = false := by
      rw [isLiteralLine, hsplit, hcommand]
      exact hliteral
    have hsorted : again = { q with operators := sortBy OperatorUse.sigil q.operators } := by
      have hplaced : again =
          (placed (splitCommand leader tokens).1 activeTable .fresh (printedBody q)).1 := by
        simp only [again, sortLine_eq activeTable .fresh hliteral', hsplit, hcommand]
      rw [hplaced, hq]
      refine placed_printedBody (fun option hoption => hoptions option ?_) hreachable
      rw [← hq] at hoption
      exact hoption
    refine ⟨hsorted, fun hsame => ?_⟩
    have hordered : q.operators.Pairwise fun a b => a.sigil ≤ b.sigil := by
      rw [List.pairwise_iff_forall_sublist]
      intro a b hsub
      have ha := hsub.subset List.mem_cons_self
      have hb := hsub.subset (List.mem_cons_of_mem _ List.mem_cons_self)
      exact hsame a ha b hb ▸ String.le_refl a.sigil
    rw [hsorted, sortBy_of_pairwise hordered]
  · obtain ⟨hnone, hsome⟩ := isSome_splitCommand_toTokens hkeeps
    rw [← hagain] at hsome
    refine ⟨hsome, fun heq => ?_⟩
    rw [heq, hnone] at hsome
    cases hsome

/-- Options of both scopes, a table that stands late and operators out of the order of their buckets. -/
theorem sortLine_toTokens_reordered :
    let ops : List RegistryOp := [.seed .nowrap .both (some "x -o -limit=5 -"), .set "v" (.text "a=b") .transient]
    let tokens := ["\\Update", "+b.=2", "-2v", "qty+=1", "users", "++", "n:=4", "-x=a=b"]
    let q := (sortLine "\\" none (OptionRegistry.run ops) tokens).1
    let again := (sortLine "\\" none .fresh (q.toTokens "\\")).1
    isLiteralLine "\\" tokens = false ∧ KeepsCommand "\\" q ∧
      q.options.entries.map Query.optionToken =
        ["-", "-2v", "-limit=5", "-nowrap", "-o", "-q", "-r", "-v=a=b", "-x=a=b"] ∧
      q.operators = [⟨".=", "+", 0⟩, ⟨"+=", "", 0⟩, ⟨":=", "", 1⟩] ∧
      again.operators = [⟨"+=", "", 0⟩, ⟨":=", "", 1⟩, ⟨".=", "+", 0⟩] ∧
      again = { q with operators := sortBy OperatorUse.sigil q.operators } := by
  intro ops tokens q again
  have hreachable : (OptionRegistry.run ops).Reachable := by
    refine ⟨ops, ?_, rfl⟩
    intro op hop
    rcases List.mem_cons.mp hop with rfl | hop
    · trivial
    · rw [List.mem_singleton.mp hop]
      exact ⟨"-v=a=b", by decide +kernel⟩
  have hliteral : isLiteralLine "\\" tokens = false := by decide +kernel
  have hoptions : ∀ option ∈ q.options.entries, IsTokenOption option := by decide +kernel
  have hkeeps : KeepsCommand "\\" q := .inl (by decide +kernel)
  have h := sortLine_toTokens "\\" none (OptionRegistry.run ops) tokens hreachable hliteral hoptions
  exact ⟨hliteral, hkeeps, by decide +kernel, by decide +kernel, by decide +kernel, (h.2.1 hkeeps).1⟩

end Sorting

end TerseQuery
