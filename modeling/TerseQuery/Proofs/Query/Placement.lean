import Mathlib.Data.List.Basic
import Mathlib.Data.List.Nodup
import TerseQuery.Query.Sorting

/-!
# Where the tokens of a line go

Sorting reads the tokens after the command one by one. What it has made of them in the end can be said
without any order of steps:

* `foldl_addToken`: the option tokens are set one after the other, at most one token becomes the table, and
  all others are added as words;
* `get?_buckets_addWords`: a bucket holds the words of its sigil, in order;
* `mem_operatorUses`, `nodup_operatorUses`: the operators recorded are those of the words, each of them once;
* `sortLine_eq_placedLiteral`: a line of literal SQL is its options and the rest joined;
* `sortLine_conserves_tokens`: all of it for a line that is no literal SQL.
-/

namespace TerseQuery

namespace Token

/-- A word without sigil and without operator, the form of a token that can name a table. -/
def isPlainName (token : String) : Bool :=
  sigil token == "" && word token != "" && (operator? (word token)).isNone

/-- Whether a sigil makes its tokens options: a run of dashes. -/
def IsDashes (sigil : String) : Prop :=
  sigil ≠ "" ∧ ∀ c ∈ sigil.toList, c = '-'

theorem isOption_iff {token : String} : isOption token = true ↔ IsDashes (sigil token) := by
  simp [isOption, IsDashes]

theorem not_isOption_of_sigil_eq {token : String} (h : sigil token = "") : isOption token = false := by
  simp [isOption, h]

theorem word_eq_of_sigil_eq {token : String} (h : sigil token = "") : word token = token := by
  have := sigil_append_word token
  rwa [h, String.empty_append] at this

end Token

namespace Sorting

/-! ## The three destinations -/

/-- Whether the next plain name is the table. -/
def takesTable (q : Query) : Bool :=
  q.isQueryLine && q.table.isNone

/-- The token that names the table of a line, if it takes its table from the tokens. -/
def tableToken? (takes : Bool) (tokens : List String) : Option String :=
  if takes then (tokens.filter (!Token.isOption ·)).find? Token.isPlainName else none

/-- The tokens that are words: all but the options and the token that names the table. -/
def wordTokens (takes : Bool) (tokens : List String) : List String :=
  if takes then (tokens.filter (!Token.isOption ·)).eraseP Token.isPlainName
  else tokens.filter (!Token.isOption ·)

/-- A query with some tokens added as words. -/
def addWords (q : Query) (tokens : List String) : Query :=
  tokens.foldl (fun q token => addWord q (Token.sigil token) (Token.word token)) q

/-- A registry with some tokens set as options of the line. -/
def setTokens (r : OptionRegistry) (tokens : List String) : OptionRegistry :=
  tokens.foldl (fun r token => r.setToken .transient token) r

theorem namesTable_eq (q : Query) (token : String) :
    namesTable q token = (takesTable q && Token.isPlainName token) := by
  simp only [namesTable, takesTable, Token.isPlainName]
  ac_rfl

theorem addWords_cons (q : Query) (token : String) (rest : List String) :
    addWords q (token :: rest) = addWords (addWord q (Token.sigil token) (Token.word token)) rest := rfl

theorem addWord_table (q : Query) (table : Option TableRef) (sigil word : String) :
    addWord { q with table } sigil word = { addWord q sigil word with table } := rfl

theorem addWords_table (q : Query) (table : Option TableRef) (tokens : List String) :
    addWords { q with table } tokens = { addWords q tokens with table } := by
  induction tokens generalizing q with
  | nil => rfl
  | cons token rest ih =>
    rw [addWords_cons, addWords_cons, addWord_table, ih]

theorem addWords_frame (q : Query) (tokens : List String) :
    (addWords q tokens).command = q.command ∧ (addWords q tokens).table = q.table ∧
      (addWords q tokens).options = q.options ∧ (addWords q tokens).literal = q.literal ∧
      (addWords q tokens).kind = q.kind := by
  induction tokens generalizing q with
  | nil => exact ⟨rfl, rfl, rfl, rfl, rfl⟩
  | cons token rest ih =>
    obtain ⟨hcommand, htable, hoptions, hliteral, hkind⟩ :=
      ih (addWord q (Token.sigil token) (Token.word token))
    rw [addWords_cons, hcommand, htable, hoptions, hliteral, hkind]
    exact ⟨rfl, rfl, rfl, rfl, rfl⟩

/-- A line read to its end. Only the first plain name can be the table, so once it is found, or when the
query has a table already, all that is left are options and words. -/
theorem foldl_addToken (tokens : List String) (s : Sorting) :
    tokens.foldl addToken s =
      ⟨{ addWords s.query (wordTokens (takesTable s.query) tokens) with
          table := s.query.table <|>
            (tableToken? (takesTable s.query) tokens).map (⟨Token.word ·, false⟩) },
        setTokens s.registry (tokens.filter Token.isOption)⟩ := by
  induction tokens generalizing s with
  | nil =>
    have hw : wordTokens (takesTable s.query) [] = [] := by simp [wordTokens]
    have ht : tableToken? (takesTable s.query) [] = none := by simp [tableToken?]
    rw [hw, ht]
    simp [addWords, setTokens]
  | cons token rest ih =>
    rw [List.foldl_cons, ih, addToken]
    cases ho : Token.isOption token with
    | true => simp [wordTokens, tableToken?, ho, setTokens]
    | false =>
      rw [namesTable_eq]
      cases hn : takesTable s.query && Token.isPlainName token with
      | true =>
        obtain ⟨ht, hp⟩ := Bool.and_eq_true_iff.mp hn
        have hnone : s.query.table = none := by
          simpa using (Bool.and_eq_true_iff.mp ht).2
        have hfalse : takesTable { s.query with table := some ⟨Token.word token, false⟩ } = false := by
          simp [takesTable]
        simp only [Bool.false_eq_true, ↓reduceIte, hfalse, ht]
        simp [wordTokens, tableToken?, ho, hp, hnone, addWords_table]
      | false =>
        have hsame : takesTable (addWord s.query (Token.sigil token) (Token.word token)) =
            takesTable s.query := rfl
        simp only [Bool.false_eq_true, ↓reduceIte, hsame]
        cases ht : takesTable s.query with
        | false => simp [wordTokens, tableToken?, ho, addWords, addWord]
        | true =>
          have hp : Token.isPlainName token = false := by simpa [ht] using hn
          simp [wordTokens, tableToken?, ho, hp, addWords, addWord]

/-! ## Words by sigil -/

/-- The words of the tokens with a sigil, in order. -/
def wordsOf (sigil : String) (tokens : List String) : List String :=
  (tokens.filter (Token.sigil · == sigil)).map Token.word

@[simp] theorem wordsOf_nil (sigil : String) : wordsOf sigil [] = [] := rfl

theorem wordsOf_cons (sigil token : String) (rest : List String) :
    wordsOf sigil (token :: rest) =
      if Token.sigil token = sigil then Token.word token :: wordsOf sigil rest else wordsOf sigil rest := by
  by_cases h : Token.sigil token = sigil <;> simp [wordsOf, h]

theorem wordsOf_append (sigil : String) (xs ys : List String) :
    wordsOf sigil (xs ++ ys) = wordsOf sigil xs ++ wordsOf sigil ys := by
  simp [wordsOf]

theorem bucket_addWord (q : Query) (sigil word other : String) :
    (addWord q sigil word).bucket other =
      if sigil = other then q.bucket sigil ++ [word] else q.bucket other := by
  by_cases h : sigil = other <;> simp [Query.bucket, addWord, Dict.get?_insert, h]

theorem bucket_addWords (q : Query) (tokens : List String) (sigil : String) :
    (addWords q tokens).bucket sigil = q.bucket sigil ++ wordsOf sigil tokens := by
  induction tokens generalizing q with
  | nil => simp [addWords]
  | cons token rest ih =>
    rw [addWords_cons, ih, bucket_addWord, wordsOf_cons]
    by_cases h : Token.sigil token = sigil
    · subst h; simp
    · simp [h]

/-- A bucket is there as soon as it has a word. -/
theorem get?_buckets_addWords (q : Query) (tokens : List String) (sigil : String) :
    (addWords q tokens).buckets.get? sigil =
      if wordsOf sigil tokens = [] then q.buckets.get? sigil
      else some (q.bucket sigil ++ wordsOf sigil tokens) := by
  induction tokens generalizing q with
  | nil => simp [addWords]
  | cons token rest ih =>
    rw [addWords_cons, ih, bucket_addWord, wordsOf_cons]
    by_cases h : Token.sigil token = sigil
    · subst h
      by_cases hr : wordsOf (Token.sigil token) rest = [] <;> simp [hr, addWord, Dict.get?_insert]
    · simp [h, addWord, Dict.get?_insert]

/-! ## Operators -/

/-- The operators in the words of some tokens, `earlier` being the tokens before them. An operator counts
the words before it that share its sigil. -/
def operatorUses (earlier : List String) : List String → List OperatorUse
  | [] => []
  | token :: rest =>
    ((Token.operator? (Token.word token)).map
      (⟨·, Token.sigil token, (wordsOf (Token.sigil token) earlier).length⟩)).toList ++
      operatorUses (earlier ++ [token]) rest

theorem operators_addWord (q : Query) (sigil word : String) :
    (addWord q sigil word).operators =
      q.operators ++ ((Token.operator? word).map (⟨·, sigil, (q.bucket sigil).length⟩)).toList := by
  simp only [addWord]
  cases Token.operator? word <;> simp

theorem operators_addWords (q : Query) (earlier tokens : List String)
    (h : ∀ sigil, q.bucket sigil = wordsOf sigil earlier) :
    (addWords q tokens).operators = q.operators ++ operatorUses earlier tokens := by
  induction tokens generalizing q earlier with
  | nil => simp [addWords, operatorUses]
  | cons token rest ih =>
    have hnext : ∀ sigil, (addWord q (Token.sigil token) (Token.word token)).bucket sigil =
        wordsOf sigil (earlier ++ [token]) := by
      intro sigil
      rw [bucket_addWord, wordsOf_append, wordsOf_cons]
      by_cases hs : Token.sigil token = sigil
      · subst hs; simp [h]
      · simp [hs, h]
    rw [addWords_cons, ih _ _ hnext, operators_addWord, h]
    simp [operatorUses]

/-- An operator is recorded exactly for the places from `earlier` on whose word has one. -/
theorem mem_operatorUses {earlier tokens : List String} {op : OperatorUse} :
    op ∈ operatorUses earlier tokens ↔
      (wordsOf op.sigil earlier).length ≤ op.index ∧
        ∃ word, (wordsOf op.sigil (earlier ++ tokens))[op.index]? = some word ∧
          Token.operator? word = some op.symbol := by
  induction tokens generalizing earlier with
  | nil =>
    simp only [operatorUses, List.not_mem_nil, List.append_nil, false_iff]
    rintro ⟨hle, word, hget, -⟩
    rw [List.getElem?_eq_none hle] at hget
    cases hget
  | cons token rest ih =>
    have happ : earlier ++ token :: rest = (earlier ++ [token]) ++ rest := by simp
    rw [operatorUses, List.mem_append, ih, happ]
    constructor
    · rintro (hhead | ⟨hle, hword⟩)
      · simp only [Option.mem_toList, Option.map_eq_some_iff] at hhead
        obtain ⟨symbol, hsym, rfl⟩ := hhead
        refine ⟨Nat.le_refl _, Token.word token, ?_, hsym⟩
        simp [wordsOf_append, wordsOf_cons]
      · refine ⟨?_, hword⟩
        rw [wordsOf_append, List.length_append] at hle
        omega
    · rintro ⟨hle, word, hget, hsym⟩
      by_cases hs : Token.sigil token = op.sigil
      · rcases Nat.eq_or_lt_of_le hle with heq | hlt
        · left
          have hword : word = Token.word token := by
            have := hget
            simp only [wordsOf_append, wordsOf_cons, hs, ← heq] at this
            simpa using this.symm
          subst hword
          simp only [Option.mem_toList, Option.map_eq_some_iff]
          exact ⟨op.symbol, hsym, by rw [hs, heq]⟩
        · right
          refine ⟨?_, word, hget, hsym⟩
          rw [wordsOf_append, List.length_append, wordsOf_cons, if_pos hs]
          simp only [wordsOf_nil, List.length_cons, List.length_nil]
          omega
      · right
        refine ⟨?_, word, hget, hsym⟩
        rw [wordsOf_append, wordsOf_cons, if_neg hs]
        simpa using hle

/-- The place of the word that an operator was found in. -/
def place (op : OperatorUse) : String × Nat :=
  (op.sigil, op.index)

theorem nodup_operatorUses (earlier tokens : List String) :
    ((operatorUses earlier tokens).map place).Nodup := by
  induction tokens generalizing earlier with
  | nil => simp [operatorUses]
  | cons token rest ih =>
    rw [operatorUses]
    cases hop : Token.operator? (Token.word token) with
    | none => simpa using ih (earlier ++ [token])
    | some symbol =>
      simp only [Option.map_some, Option.toList_some, List.singleton_append, List.map_cons,
        List.nodup_cons]
      refine ⟨?_, ih _⟩
      intro hmem
      obtain ⟨op, hop', hplace⟩ := List.mem_map.mp hmem
      -- every later operator with this sigil has more words before it
      have hle := (mem_operatorUses.mp hop').1
      simp only [place, Prod.mk.injEq] at hplace
      rw [hplace.1, hplace.2, wordsOf_append, List.length_append, wordsOf_cons, if_pos rfl] at hle
      simp only [List.length_cons, wordsOf_nil, List.length_nil] at hle
      omega

end Sorting

/-- The operators of a query are those of the words in its buckets, each recorded once. -/
structure Query.Recorded (q : Query) : Prop where
  mem : ∀ op, op ∈ q.operators ↔
    ∃ word, q.wordOf? op = some word ∧ Token.operator? word = some op.symbol
  nodup : (q.operators.map Sorting.place).Nodup

/-- What is recorded for a word is the operator in it. -/
theorem Query.Recorded.operatorAt? {q : Query} (h : q.Recorded) {sigil word : String} {index : Nat}
    (hw : (q.bucket sigil)[index]? = some word) :
    q.operatorAt? sigil index = (Token.operator? word).map (⟨·, sigil, index⟩) := by
  cases hfind : q.operatorAt? sigil index with
  | some op =>
    have hmem := List.mem_of_find?_eq_some hfind
    obtain ⟨hs, hi⟩ : op.sigil = sigil ∧ op.index = index := by simpa using List.find?_some hfind
    obtain ⟨word', hw', hop⟩ := (h.mem op).mp hmem
    simp only [Query.wordOf?, hs, hi, hw, Option.some.injEq] at hw'
    rw [hw', hop, ← hs, ← hi, Option.map_some]
  | none =>
    cases hop : Token.operator? word with
    | none => rfl
    | some symbol =>
      have hmem : ⟨symbol, sigil, index⟩ ∈ q.operators := (h.mem _).mpr ⟨word, hw, hop⟩
      simpa using List.find?_eq_none.mp hfind _ hmem

namespace Sorting

/-! ## Whole lines -/

/-- Whether the command of a line asks for literal SQL. -/
def isLiteralLine (leader : String) (tokens : List String) : Bool :=
  (splitCommand leader tokens).1.any (Text.equalFolded literalVerb ·)

/-- The query of a line whose command is read. -/
def startQuery (command activeTable : Option String) : Query :=
  { Query.empty with command, table := activeTable.map (⟨·, true⟩) }

/-- Whether a line takes its table from the tokens: it is a query and no table is active. -/
def lineTakesTable (command activeTable : Option String) : Bool :=
  (command.all fun name => (QueryKind.ofVerb? name).isSome) && activeTable.isNone

theorem takesTable_startQuery (command activeTable : Option String) :
    takesTable (startQuery command activeTable) = lineTakesTable command activeTable := by
  simp [takesTable, lineTakesTable, startQuery, Query.isQueryLine]

theorem append_of_splitCommand (leader : String) (tokens : List String) :
    tokens = ((splitCommand leader tokens).1.map (leader ++ ·)).toList ++
      (splitCommand leader tokens).2 := by
  unfold splitCommand
  split
  · rfl
  · split
    · rfl
    · split
      · rename_i hs
        simp [Text.append_of_strip? hs]
      · rfl

/-- What a line is sorted into when it is no literal SQL, in one piece. -/
def placed (command activeTable : Option String) (registry : OptionRegistry) (rest : List String) :
    Query × OptionRegistry :=
  let takes := lineTakesTable command activeTable
  let after := setTokens registry (rest.filter Token.isOption)
  ({ addWords (startQuery command activeTable) (wordTokens takes rest) with
      table := activeTable.map (⟨·, true⟩) <|> (tableToken? takes rest).map (⟨·, false⟩)
      options := after.effective }, after)

theorem isPlainName_of_tableToken? {takes : Bool} {tokens : List String} {token : String}
    (h : tableToken? takes tokens = some token) : Token.isPlainName token = true := by
  unfold tableToken? at h
  split at h
  · exact List.find?_some h
  · cases h

/-- A token that names the table is all word. -/
theorem word_of_tableToken? {takes : Bool} {tokens : List String} {token : String}
    (h : tableToken? takes tokens = some token) : Token.word token = token := by
  have hplain := isPlainName_of_tableToken? h
  simp only [Token.isPlainName, Bool.and_eq_true, beq_iff_eq] at hplain
  exact Token.word_eq_of_sigil_eq hplain.1.1

theorem sortLine_eq {leader : String} {tokens : List String} (activeTable : Option String)
    (registry : OptionRegistry) (h : isLiteralLine leader tokens = false) :
    sortLine leader activeTable registry tokens =
      placed (splitCommand leader tokens).1 activeTable registry (splitCommand leader tokens).2 := by
  have hword : ∀ takes rest, (tableToken? takes rest).map (fun t => TableRef.mk (Token.word t) false) =
      (tableToken? takes rest).map (⟨·, false⟩) := by
    intro takes rest
    cases hname : tableToken? takes rest with
    | none => rfl
    | some token => simp [word_of_tableToken? hname]
  unfold isLiteralLine at h
  simp only [sortLine, h, Bool.false_eq_true, ↓reduceIte, foldl_addToken]
  simp only [placed, ← takesTable_startQuery, ← hword]
  rfl

/-- The SQL that some tokens make, if there are any. -/
def joined? (tokens : List String) : Option String :=
  if tokens = [] then none else some (String.intercalate " " tokens)

/-- What a line of literal SQL is sorted into, in one piece. -/
def placedLiteral (command activeTable : Option String) (registry : OptionRegistry) (rest : List String) :
    Query × OptionRegistry :=
  let after := setTokens registry (rest.takeWhile Token.isStrictOption)
  ({ startQuery command activeTable with
      literal := joined? (rest.dropWhile Token.isStrictOption)
      options := after.effective }, after)

theorem sortLine_eq_placedLiteral {leader : String} {tokens : List String} (activeTable : Option String)
    (registry : OptionRegistry) (h : isLiteralLine leader tokens = true) :
    sortLine leader activeTable registry tokens =
      placedLiteral (splitCommand leader tokens).1 activeTable registry (splitCommand leader tokens).2 := by
  unfold isLiteralLine at h
  simp only [sortLine, h, ↓reduceIte, addLiteral, List.isEmpty_iff]
  rfl

section
variable (command activeTable : Option String) (registry : OptionRegistry) (rest : List String)

theorem command_placed : (placed command activeTable registry rest).1.command = command :=
  (addWords_frame _ _).1

theorem literal_placed : (placed command activeTable registry rest).1.literal = none :=
  (addWords_frame _ _).2.2.2.1

theorem options_placed :
    (placed command activeTable registry rest).1.options =
      (setTokens registry (rest.filter Token.isOption)).effective := rfl

theorem kind_placed : (placed command activeTable registry rest).1.kind = none :=
  (addWords_frame _ _).2.2.2.2

theorem bucket_placed (sigil : String) :
    (placed command activeTable registry rest).1.bucket sigil =
      wordsOf sigil (wordTokens (lineTakesTable command activeTable) rest) :=
  bucket_addWords (startQuery command activeTable) _ sigil

theorem get?_buckets_placed (sigil : String) :
    (placed command activeTable registry rest).1.buckets.get? sigil =
      if wordsOf sigil (wordTokens (lineTakesTable command activeTable) rest) = [] then none
      else some (wordsOf sigil (wordTokens (lineTakesTable command activeTable) rest)) :=
  get?_buckets_addWords (startQuery command activeTable) _ sigil

theorem operators_placed :
    (placed command activeTable registry rest).1.operators =
      operatorUses [] (wordTokens (lineTakesTable command activeTable) rest) :=
  operators_addWords (startQuery command activeTable) [] _ fun _ => rfl

theorem recorded_placed : (placed command activeTable registry rest).1.Recorded := by
  have hops := operators_placed command activeTable registry rest
  refine ⟨fun op => ?_, hops ▸ nodup_operatorUses [] _⟩
  rw [hops, mem_operatorUses, Query.wordOf?, bucket_placed]
  simp

end

/-- The operators of any sorted line are those of its words; a line of literal SQL has neither. -/
theorem recorded_sortLine (leader : String) (activeTable : Option String) (registry : OptionRegistry)
    (tokens : List String) : (sortLine leader activeTable registry tokens).1.Recorded := by
  cases hliteral : isLiteralLine leader tokens with
  | false =>
    rw [sortLine_eq activeTable registry hliteral]
    exact recorded_placed _ _ _ _
  | true =>
    rw [sortLine_eq_placedLiteral activeTable registry hliteral]
    refine ⟨fun op => ?_, .nil⟩
    constructor
    · intro hop
      cases hop
    · rintro ⟨word, hword, -⟩
      cases hword

theorem command_sortLine (leader : String) (activeTable : Option String) (registry : OptionRegistry)
    (tokens : List String) :
    (sortLine leader activeTable registry tokens).1.command = (splitCommand leader tokens).1 := by
  cases hliteral : isLiteralLine leader tokens with
  | false =>
    rw [sortLine_eq activeTable registry hliteral]
    exact command_placed _ _ _ _
  | true =>
    rw [sortLine_eq_placedLiteral activeTable registry hliteral]
    rfl

/-- The tokens of a line that are set as its options. -/
def lineOptions (leader : String) (tokens : List String) : List String :=
  if isLiteralLine leader tokens then (splitCommand leader tokens).2.takeWhile Token.isStrictOption
  else (splitCommand leader tokens).2.filter Token.isOption

/-- Whatever else is on a line, only its options reach the registry. -/
theorem registry_sortLine (leader : String) (activeTable : Option String) (registry : OptionRegistry)
    (tokens : List String) :
    (sortLine leader activeTable registry tokens).2 = setTokens registry (lineOptions leader tokens) := by
  cases hliteral : isLiteralLine leader tokens with
  | false =>
    rw [sortLine_eq activeTable registry hliteral, lineOptions, hliteral]
    rfl
  | true =>
    rw [sortLine_eq_placedLiteral activeTable registry hliteral, lineOptions, hliteral]
    rfl

theorem setTokens_frame (r : OptionRegistry) (tokens : List String) :
    (setTokens r tokens).persistent = r.persistent ∧ (setTokens r tokens).seeded = r.seeded := by
  induction tokens generalizing r with
  | nil => exact ⟨rfl, rfl⟩
  | cons token rest ih =>
    simpa only [setTokens, List.foldl_cons, OptionRegistry.setToken, OptionRegistry.set,
      OptionRegistry.modify] using ih (r.setToken .transient token)

/-- Each token is an option, the table or a word, and is so once. -/
theorem perm_destinations (takes : Bool) (tokens : List String) :
    tokens.Perm (tokens.filter Token.isOption ++ (tableToken? takes tokens).toList ++
      wordTokens takes tokens) := by
  have hsplit := (List.filter_append_perm Token.isOption tokens).symm
  cases takes with
  | false => simpa [tableToken?, wordTokens] using hsplit
  | true =>
    refine hsplit.trans ?_
    rw [List.append_assoc]
    apply List.Perm.append_left
    simp only [tableToken?, wordTokens, ↓reduceIte]
    generalize tokens.filter (!Token.isOption ·) = plain
    induction plain with
    | nil => exact .nil
    | cons token rest ih =>
      cases hp : Token.isPlainName token with
      | true => simp [hp]
      | false =>
        simp only [List.find?_cons, List.eraseP_cons, hp, cond_false]
        exact (ih.cons token).trans List.perm_middle.symm

theorem wordTokens_sublist (takes : Bool) (tokens : List String) :
    (wordTokens takes tokens).Sublist tokens := by
  unfold wordTokens
  split
  · exact List.eraseP_sublist.trans List.filter_sublist
  · exact List.filter_sublist

theorem isOption_of_mem_wordTokens {takes : Bool} {tokens : List String} {token : String}
    (h : token ∈ wordTokens takes tokens) : Token.isOption token = false := by
  have hmem : token ∈ tokens.filter (!Token.isOption ·) := by
    unfold wordTokens at h
    split at h
    · exact List.mem_of_mem_eraseP h
    · exact h
  simpa using (List.mem_filter.mp hmem).2

theorem isDashes_of_wordsOf_ne_nil {takes : Bool} {tokens : List String} {sigil : String}
    (h : wordsOf sigil (wordTokens takes tokens) ≠ []) : ¬ Token.IsDashes sigil := by
  intro hdashes
  obtain ⟨word, hword⟩ := List.exists_mem_of_ne_nil _ h
  obtain ⟨token, htoken, -⟩ := List.mem_map.mp hword
  obtain ⟨hmem, hsigil⟩ := List.mem_filter.mp htoken
  have hoption := isOption_of_mem_wordTokens hmem
  rw [← beq_iff_eq.mp hsigil, ← Token.isOption_iff, hoption] at hdashes
  cases hdashes

/-- What sorting makes of the tokens `rest` after the command. -/
structure Conserved (activeTable : Option String) (before : OptionRegistry) (rest : List String)
    (q : Query) (after : OptionRegistry) : Prop where
  /-- The option tokens are set one by one as options of the line. -/
  options : after = setTokens before (rest.filter Token.isOption)
  effective : q.options = after.effective
  persistent : after.persistent = before.persistent ∧ after.seeded = before.seeded
  /-- The table is the active one, or else the first plain name of a query line. -/
  table : q.table = match activeTable with
    | some name => some ⟨name, true⟩
    | none => (tableToken? (lineTakesTable q.command activeTable) rest).map (⟨·, false⟩)
  /-- A token is an option, the table or a word, and is so once. -/
  covered : rest.Perm (rest.filter Token.isOption ++
    (tableToken? (lineTakesTable q.command activeTable) rest).toList ++
    wordTokens (lineTakesTable q.command activeTable) rest)
  inOrder : (wordTokens (lineTakesTable q.command activeTable) rest).Sublist rest
  bucket : ∀ sigil, q.bucket sigil =
    wordsOf sigil (wordTokens (lineTakesTable q.command activeTable) rest)
  keys : ∀ sigil words, q.buckets.get? sigil = some words → words ≠ [] ∧ ¬ Token.IsDashes sigil
  /-- The operators stand in the order of their tokens. -/
  operators : q.operators =
    operatorUses [] (wordTokens (lineTakesTable q.command activeTable) rest)
  recorded : q.Recorded
  literal : q.literal = none

theorem conserved_placed (command activeTable : Option String) (registry : OptionRegistry)
    (rest : List String) :
    Conserved activeTable registry rest (placed command activeTable registry rest).1
      (placed command activeTable registry rest).2 := by
  constructor
  case options => rfl
  case effective => rfl
  case persistent => exact setTokens_frame registry _
  case table =>
    rw [command_placed]
    cases activeTable <;> rfl
  case covered => exact perm_destinations _ _
  case inOrder => exact wordTokens_sublist _ _
  case bucket =>
    intro sigil
    rw [bucket_placed, command_placed]
  case keys =>
    intro sigil words hwords
    rw [get?_buckets_placed] at hwords
    split at hwords
    · cases hwords
    · rename_i hne
      simp only [Option.some.injEq] at hwords
      exact ⟨hwords ▸ hne, isDashes_of_wordsOf_ne_nil hne⟩
  case operators => rw [operators_placed, command_placed]
  case recorded => exact recorded_placed _ _ _ _
  case literal => exact literal_placed _ _ _ _

/-- Nothing of a line is lost or counted twice. The tokens are the command and the rest, and of the rest each
token is an option of the line, the table, or a word in the bucket of its sigil. -/
theorem sortLine_conserves_tokens (leader : String) (activeTable : Option String)
    (registry : OptionRegistry) (tokens : List String) (h : isLiteralLine leader tokens = false) :
    let q := (sortLine leader activeTable registry tokens).1
    let after := (sortLine leader activeTable registry tokens).2
    let rest := (splitCommand leader tokens).2
    q.command = (splitCommand leader tokens).1 ∧
      tokens = (q.command.map (leader ++ ·)).toList ++ rest ∧
      Conserved activeTable registry rest q after := by
  rw [sortLine_eq activeTable registry h]
  refine ⟨command_placed _ _ _ _, ?_, conserved_placed _ _ _ _⟩
  rw [command_placed]
  exact append_of_splitCommand leader tokens

/-- The table stands late in this line, and words of two sigils carry operators. -/
theorem sortLine_conserves_tokens_late_table :
    let tokens := ["\\update", "-o", "qty+=1", "users", "+a.=2", "id=3", "n:=4"]
    let q := (sortLine "\\" none .fresh tokens).1
    isLiteralLine "\\" tokens = false ∧ q.table = some ⟨"users", false⟩ ∧
      q.operators = [⟨"+=", "", 0⟩, ⟨".=", "+", 0⟩, ⟨":=", "", 2⟩] ∧
      Conserved none .fresh tokens.tail q (sortLine "\\" none .fresh tokens).2 := by
  intro tokens q
  have hliteral : isLiteralLine "\\" tokens = false := by decide +kernel
  have hrest : (splitCommand "\\" tokens).2 = tokens.tail := by decide +kernel
  have hconserved := (sortLine_conserves_tokens "\\" none .fresh tokens hliteral).2.2
  rw [hrest] at hconserved
  exact ⟨hliteral, by decide +kernel, by decide +kernel, hconserved⟩

end Sorting

end TerseQuery
