import TerseQuery.Proofs.Query.Printing
import TerseQuery.Proofs.Text.Words

/-!
# Printing literal SQL

Literal SQL is printed word by word, after its options. Sorted again, its words are joined by single
spaces, and those that it starts with and that look strictly like options are options of the line.

* `SurvivesPrinting`: what SQL has to look like for nothing to change, as SQL of tokens without blanks does;
* `toTokens_placedLiteral`, `sortLine_toTokens_placedLiteral`: what is printed, and what becomes of it;
* `joined?_dropWhile_words`: only such SQL is read back from its words;
* `sortLine_toTokens_literal`: all of it for whole lines.
-/

namespace TerseQuery.Sorting

/-- SQL that is words joined by single spaces, the first of which does not look strictly like an option. -/
def SurvivesPrinting (sql : String) : Prop :=
  ∃ first rest, (∀ word ∈ first :: rest, Text.IsWord word) ∧ Token.isStrictOption first = false ∧
    String.intercalate " " (first :: rest) = sql

theorem joined?_eq_some_iff {tokens : List String} {sql : String} :
    joined? tokens = some sql ↔ tokens ≠ [] ∧ String.intercalate " " tokens = sql := by
  rw [joined?]
  split <;> simp [*]

/-- No word of SQL that survives printing is taken for an option, and it is read back from its words. -/
theorem SurvivesPrinting.read {sql : String} (h : SurvivesPrinting sql) :
    (Text.words sql).takeWhile Token.isStrictOption = [] ∧
      joined? ((Text.words sql).dropWhile Token.isStrictOption) = some sql := by
  obtain ⟨first, rest, hwords, hstrict, rfl⟩ := h
  have hlax : ¬ Token.isStrictOption first = true := Bool.eq_false_iff.mp hstrict
  rw [Text.words_intercalate hwords, List.takeWhile_cons_of_neg hlax, List.dropWhile_cons_of_neg hlax,
    joined?_eq_some_iff]
  exact ⟨rfl, List.cons_ne_nil _ _, rfl⟩

/-- Tokens without blanks that come after options make SQL that survives printing. -/
theorem survivesPrinting_of_joined {tokens : List String} {sql : String}
    (hwords : ∀ token ∈ tokens, Text.IsWord token)
    (h : joined? (tokens.dropWhile Token.isStrictOption) = some sql) : SurvivesPrinting sql := by
  obtain ⟨hsome, hjoined⟩ := joined?_eq_some_iff.mp h
  have hstrict := List.head_dropWhile_not (p := Token.isStrictOption) (l := tokens) hsome
  have hleft : ∀ token ∈ tokens.dropWhile Token.isStrictOption, Text.IsWord token :=
    fun token htoken => hwords token ((List.dropWhile_sublist _).subset htoken)
  obtain ⟨first, rest, hcons⟩ := List.exists_cons_of_ne_nil hsome
  simp only [hcons, List.head_cons] at hstrict hleft hjoined
  exact ⟨first, rest, hleft, hstrict, hjoined⟩

/-- SQL is read back from its words just if it survives printing. -/
theorem joined?_dropWhile_words {sql : String} :
    joined? ((Text.words sql).dropWhile Token.isStrictOption) = some sql ↔ SurvivesPrinting sql :=
  ⟨survivesPrinting_of_joined fun _ => Text.isWord_of_mem_words, fun h => h.read.2⟩

/-! ## Printed lines -/

section
variable {name sql : String} {activeTable : Option String} {rest : List String}

/-- Literal SQL is printed after its command and its options. -/
theorem toTokens_placedLiteral {registry : OptionRegistry}
    (hsql : (placedLiteral (some name) activeTable registry rest).1.literal = some sql) (leader : String) :
    (placedLiteral (some name) activeTable registry rest).1.toTokens leader =
      (leader ++ name) ::
        ((placedLiteral (some name) activeTable registry rest).1.options.entries.map Query.optionToken ++
          Text.words sql) := by
  rw [Query.toTokens, hsql]
  rfl

/-- The keys of options before literal SQL are words. -/
theorem isWordKey_of_mem_options {option : String × OptionValue}
    (h : option ∈ (placedLiteral (some name) activeTable .fresh rest).1.options.entries) :
    IsWordKey option.1 := by
  obtain ⟨token, htoken, hkey⟩ := exists_token_of_mem_effective h
  have hstrict : Token.isStrictOption token = true := List.all_eq_true.mp List.all_takeWhile token htoken
  exact hkey ▸ (isStrictOption_iff.mp hstrict).2

/-- A printed line sorted again. What the SQL starts with becomes options as far as it looks like some, and
all other words are its SQL. -/
theorem sortLine_toTokens_placedLiteral {leader : String} (hleader : leader ≠ "")
    (hverb : Text.equalFolded literalVerb name = true)
    (hsql : (placedLiteral (some name) activeTable .fresh rest).1.literal = some sql) :
    let q := (placedLiteral (some name) activeTable .fresh rest).1
    let options := q.options.entries.map Query.optionToken
    (sortLine leader activeTable .fresh (q.toTokens leader)).1 =
      { q with
        options := (setTokens .fresh (options ++ (Text.words sql).takeWhile Token.isStrictOption)).effective
        literal := joined? ((Text.words sql).dropWhile Token.isStrictOption) } := by
  intro q options
  have hsplit : splitCommand leader (q.toTokens leader) = (some name, options ++ Text.words sql) := by
    rw [toTokens_placedLiteral hsql, splitCommand_leader hleader]
  have hliteral : isLiteralLine leader (q.toTokens leader) = true := by
    rw [isLiteralLine, hsplit]
    exact hverb
  have hstrict : ∀ token ∈ options, Token.isStrictOption token = true := by
    intro token htoken
    obtain ⟨option, hoption, rfl⟩ := List.mem_map.mp htoken
    exact isStrictOption_optionToken (isWordKey_of_mem_options hoption)
  rw [sortLine_eq_placedLiteral activeTable .fresh hliteral, hsplit, placedLiteral,
    List.takeWhile_append_of_pos hstrict, List.dropWhile_append_of_pos hstrict]
  rfl

/-- The options come back if the SQL starts with none. -/
theorem effective_setTokens_printed :
    let q := (placedLiteral (some name) activeTable .fresh rest).1
    (setTokens .fresh (q.options.entries.map Query.optionToken)).effective = q.options := by
  intro q
  have hreachable := OptionRegistry.reachable_fresh.setTokens (rest.takeWhile Token.isStrictOption)
  exact effective_setTokens_optionTokens hreachable.exclusive_effective hreachable.plainKeys_effective
    fun option hoption => .inl (isWordKey_of_mem_options hoption).startsWord

end

/-- Literal SQL printed and sorted again, with no options set before. Its words come back, joined by single
spaces, but for those that it starts with and that look strictly like options, which are set. So it comes
back as it was, and the whole line with it, just if it survives printing, as it does if no token has a blank. -/
theorem sortLine_toTokens_literal (leader : String) (activeTable : Option String) (tokens : List String)
    (sql : String) (hliteral : isLiteralLine leader tokens = true)
    (hsql : (sortLine leader activeTable .fresh tokens).1.literal = some sql) :
    let q := (sortLine leader activeTable .fresh tokens).1
    let again := (sortLine leader activeTable .fresh (q.toTokens leader)).1
    let leading := (Text.words sql).takeWhile Token.isStrictOption
    let left := (Text.words sql).dropWhile Token.isStrictOption
    again =
        { q with
          options := (setTokens .fresh (q.options.entries.map Query.optionToken ++ leading)).effective
          literal := joined? left } ∧
      (leading = [] → again.options = q.options) ∧
      (again.literal = q.literal ↔ SurvivesPrinting sql) ∧
      (again = q ↔ SurvivesPrinting sql) ∧
      ((∀ token ∈ (splitCommand leader tokens).2, Text.IsWord token) → SurvivesPrinting sql) := by
  obtain ⟨name, hname, hverb⟩ := (Option.any_eq_true _ _).mp hliteral
  have hplaced := congrArg Prod.fst (sortLine_eq_placedLiteral activeTable .fresh hliteral)
  rw [hname] at hplaced
  rw [hplaced] at hsql ⊢
  intro q again leading left
  have hagain : again =
      { q with
        options := (setTokens .fresh (q.options.entries.map Query.optionToken ++ leading)).effective
        literal := joined? left } :=
    sortLine_toTokens_placedLiteral (leader_ne_empty hname) hverb hsql
  have hoptions : leading = [] → again.options = q.options := by
    intro hnone
    rw [hagain, hnone, List.append_nil]
    exact effective_setTokens_printed
  have hsame : again.literal = q.literal ↔ SurvivesPrinting sql := by
    rw [hagain, hsql]
    exact joined?_dropWhile_words
  refine ⟨hagain, hoptions, hsame, ⟨fun heq => hsame.mp (heq ▸ rfl), fun hsurvives => ?_⟩,
    fun hwords => survivesPrinting_of_joined hwords hsql⟩
  have hback := hoptions hsurvives.read.1
  have hliteral' := hsame.mpr hsurvives
  calc
    again = { q with options := again.options, literal := again.literal } := by rw [hagain]
    _ = q := by rw [hback, hliteral']

/-- SQL with quotes, a word that looks like an option inside, and single spaces survives. -/
theorem sortLine_toTokens_literal_spaced :
    let tokens := ["\\sq", "--limit=3", "-tab", "select 'a b'", "-x", "from t"]
    let q := (sortLine "\\" none .fresh tokens).1
    isLiteralLine "\\" tokens = true ∧ q.literal = some "select 'a b' -x from t" ∧
      q.toTokens "\\" = ["\\sq", "-limit=3", "-tab", "select", "'a", "b'", "-x", "from", "t"] ∧
      (sortLine "\\" none .fresh (q.toTokens "\\")).1 = q := by
  intro tokens q
  have hliteral : isLiteralLine "\\" tokens = true := by decide +kernel
  have hsql : q.literal = some "select 'a b' -x from t" := by decide +kernel
  have hsurvives : SurvivesPrinting "select 'a b' -x from t" :=
    ⟨"select", ["'a", "b'", "-x", "from", "t"], List.all_iff_forall_prop.mp (by decide +kernel), by decide +kernel,
      by decide +kernel⟩
  have h := sortLine_toTokens_literal "\\" none tokens _ hliteral hsql
  exact ⟨hliteral, hsql, by decide +kernel, h.2.2.2.1.mpr hsurvives⟩

/-- A text inside the SQL loses one of its two spaces, and an option after a blank token is set. -/
theorem sortLine_toTokens_literal_changed :
    let spaced := (sortLine "\\" none .fresh ["\\sq", "SELECT 'a  b'"]).1
    let dashed := (sortLine "\\" none .fresh ["\\sq", " ", "-tab", "SELECT 1"]).1
    isLiteralLine "\\" ["\\sq", "SELECT 'a  b'"] = true ∧ spaced.literal = some "SELECT 'a  b'" ∧
      (sortLine "\\" none .fresh (spaced.toTokens "\\")).1.literal = some "SELECT 'a b'" ∧
      isLiteralLine "\\" ["\\sq", " ", "-tab", "SELECT 1"] = true ∧
      dashed.literal = some "  -tab SELECT 1" ∧ dashed.options.entries = [] ∧
      (sortLine "\\" none .fresh (dashed.toTokens "\\")).1.literal = some "SELECT 1" ∧
      (sortLine "\\" none .fresh (dashed.toTokens "\\")).1.options.entries = [("tab", .flag)] := by
  decide +kernel

end TerseQuery.Sorting
