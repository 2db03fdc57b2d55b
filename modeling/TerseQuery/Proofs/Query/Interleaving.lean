import TerseQuery.Proofs.ListLemmas
import TerseQuery.Proofs.Query.Deduction
import TerseQuery.Proofs.Query.Placement
import TerseQuery.Proofs.Sql.Words

/-!
# Interleaving

A line mixes option tokens and words of several sigils. Only the order within the options and within the
words of one sigil counts.

* `placed_congr`: lines with the same options and the same words by sigil are sorted alike, up to the order
  of operators;
* `coded_compile_perm`: that order decides no more than which words a refusal names;
* `sortLine_interleaving`: both, for whole lines.
-/

namespace TerseQuery

namespace Sorting

/-! ## Sorting -/

/-- The tokens with a sigil, in order; options are left out. -/
def tokensOf (sigil : String) (tokens : List String) : List String :=
  tokens.filter fun token => !Token.isOption token && Token.sigil token == sigil

theorem sigil_of_isPlainName {token : String} (h : Token.isPlainName token = true) :
    Token.sigil token = "" := by
  simp only [Token.isPlainName, Bool.and_eq_true, beq_iff_eq] at h
  exact h.1.1

theorem tableToken?_eq (takes : Bool) (tokens : List String) :
    tableToken? takes tokens =
      if takes then (tokensOf "" tokens).find? Token.isPlainName else none := by
  unfold tableToken? tokensOf
  cases takes with
  | false => rfl
  | true =>
    simp only [↓reduceIte, List.find?_filter]
    congr 1
    funext token
    cases hp : Token.isPlainName token with
    | false => simp
    | true => simp [sigil_of_isPlainName hp]

theorem wordsOf_wordTokens (sigil : String) (takes : Bool) (tokens : List String) :
    wordsOf sigil (wordTokens takes tokens) =
      (if takes then (tokensOf sigil tokens).eraseP Token.isPlainName
        else tokensOf sigil tokens).map Token.word := by
  have hfilter : (tokens.filter (!Token.isOption ·)).filter (Token.sigil · == sigil) =
      tokensOf sigil tokens := by
    simp only [tokensOf, List.filter_filter]
    congr 1
    funext token
    rw [Bool.and_comm]
  have hcases : (∀ t, Token.isPlainName t = true → (Token.sigil t == sigil) = true) ∨
      ∀ t, Token.isPlainName t = true → (Token.sigil t == sigil) = false := by
    by_cases hs : sigil = ""
    · exact .inl fun t ht => by simp [sigil_of_isPlainName ht, hs]
    · exact .inr fun t ht => by simpa [sigil_of_isPlainName ht] using Ne.symm hs
  cases takes with
  | false => simp [wordsOf, wordTokens, hfilter]
  | true =>
    simp only [wordsOf, wordTokens, ↓reduceIte]
    rw [filter_eraseP _ hcases, hfilter]

theorem eq_with_operators {q q' : Query} (hcommand : q'.command = q.command) (htable : q'.table = q.table)
    (hoptions : q'.options = q.options) (hbuckets : q'.buckets = q.buckets)
    (hliteral : q'.literal = q.literal) (hkind : q'.kind = q.kind) :
    q' = { q with operators := q'.operators } := by
  cases q'
  simp only at hcommand htable hoptions hbuckets hliteral hkind
  subst hcommand htable hoptions hbuckets hliteral hkind
  rfl

/-- Lines with the same options and the same words by sigil are sorted alike. The operators of one are those
of the other in some order. -/
theorem placed_congr (command activeTable : Option String) (registry : OptionRegistry)
    {rest rest' : List String}
    (hoptions : rest.filter Token.isOption = rest'.filter Token.isOption)
    (hwords : ∀ sigil, tokensOf sigil rest = tokensOf sigil rest') :
    let q := (placed command activeTable registry rest).1
    let q' := (placed command activeTable registry rest').1
    q' = { q with operators := q'.operators } ∧ q.operators.Perm q'.operators ∧
      (placed command activeTable registry rest).2 = (placed command activeTable registry rest').2 := by
  intro q q'
  have hbuckets : q'.buckets = q.buckets := by
    apply Dict.ext_get?
    intro sigil
    simp only [q, q', get?_buckets_placed, wordsOf_wordTokens, hwords]
  have hrecorded : q.Recorded := recorded_placed command activeTable registry rest
  have hrecorded' : q'.Recorded := recorded_placed command activeTable registry rest'
  refine ⟨eq_with_operators ?_ ?_ ?_ hbuckets ?_ ?_, ?_, ?_⟩
  · exact (command_placed _ _ _ _).trans (command_placed _ _ _ _).symm
  · simp only [q, q', placed, tableToken?_eq, hwords]
  · simp only [q, q', placed, hoptions]
  · exact (literal_placed _ _ _ _).trans (literal_placed _ _ _ _).symm
  · exact (kind_placed _ _ _ _).trans (kind_placed _ _ _ _).symm
  · rw [List.perm_ext_iff_of_nodup hrecorded.nodup.of_map hrecorded'.nodup.of_map]
    intro op
    rw [hrecorded.mem, hrecorded'.mem]
    simp only [Query.wordOf?, Query.bucket, hbuckets]
  · simp only [placed, hoptions]

end Sorting

namespace Query

open Sql

/-! ## Deduction and synthesis -/

section
variable {q : Query} {operators : List OperatorUse}

theorem plainWords_perm (hq : q.Recorded) (hp : q.operators.Perm operators) :
    { q with operators }.plainWords = q.plainWords := by
  have hq' : { q with operators }.Recorded :=
    ⟨fun op => by rw [← hp.mem_iff]; exact hq.mem op, (hp.map _).nodup_iff.mp hq.nodup⟩
  rw [plainWords_eq hq, plainWords_eq hq']
  rfl

/-- Which operator with a sigil is named depends on their order, that one is named does not. -/
theorem coded_refuseForeign_perm (hp : q.operators.Perm operators) :
    Failure.coded q.refuseForeign = Failure.coded { q with operators }.refuseForeign := by
  unfold refuseForeign
  dsimp only
  split
  · rfl
  · cases hfind : q.operators.find? fun op => op.sigil ≠ conditionSigil with
    | none =>
      have hnone : operators.find? (fun op => op.sigil ≠ conditionSigil) = none := by
        rw [List.find?_eq_none] at hfind ⊢
        intro op hop
        exact hfind op (hp.mem_iff.mpr hop)
      rw [hnone]
    | some op =>
      have hsome : (operators.find? fun op => op.sigil ≠ conditionSigil).isSome := by
        rw [List.find?_isSome]
        have hop := List.find?_some hfind
        exact ⟨op, hp.mem_iff.mp (List.mem_of_find?_eq_some hfind), hop⟩
      obtain ⟨op', hop'⟩ := Option.isSome_iff_exists.mp hsome
      rw [hop']
      rfl

theorem statementOn_perm (hq : q.Recorded) (hp : q.operators.Perm operators) (kind : QueryKind)
    (table : String) : { q with operators }.statementOn kind table = q.statementOn kind table := by
  have hwords := plainWords_perm hq hp
  cases kind with
  | select =>
    simp only [statementOn, selection, rowFilter, hwords]
    rfl
  | insert =>
    simp only [statementOn, insertion, hwords]
    rfl
  | update =>
    simp only [statementOn, updating, rowFilter, hwords]
    rfl
  | delete =>
    simp only [statementOn, deletion, rowFilter, hwords]
    rfl
  | undetermined => rfl

/-- The statement of a query, or the code of its refusal, does not depend on the order of operators. -/
theorem coded_statement_perm (hq : q.Recorded) (hp : q.operators.Perm operators) (kind : QueryKind) :
    Failure.coded (q.statement kind) = Failure.coded ({ q with operators }.statement kind) := by
  rw [statement_eq, statement_eq]
  apply Failure.coded_bind_congr rfl
  intro table
  apply Failure.coded_bind_congr (coded_refuseForeign_perm hp)
  intro _
  rw [statementOn_perm hq hp]

theorem coded_compile_perm (hq : q.Recorded) (hp : q.operators.Perm operators)
    (hliteral : q.literal = none) :
    Failure.coded q.compile = Failure.coded { q with operators }.compile := by
  have hliteral' : { q with operators }.literal = none := hliteral
  rw [compile_eq hliteral, compile_eq hliteral']
  apply Failure.coded_bind_congr (coded_deduceKind_perm hp)
  intro kind
  exact Failure.coded_bind_congr (coded_statement_perm hq hp kind) fun _ => rfl

end

end Query

namespace Sorting

/-! ## Whole lines -/

theorem tokensOf_append (sigil : String) (xs ys : List String) :
    tokensOf sigil (xs ++ ys) = tokensOf sigil xs ++ tokensOf sigil ys :=
  List.filter_append ..

/-- Two lines with one command, the same options in the same order, and for each sigil the same words in the
same order are sorted alike but for the order of operators, and both come to the same SQL and kind or both
are refused with the same code. -/
theorem sortLine_interleaving (leader : String) (activeTable : Option String)
    (registry : OptionRegistry) (tokens tokens' : List String)
    (hliteral : isLiteralLine leader tokens = false)
    (hcommand : (splitCommand leader tokens).1 = (splitCommand leader tokens').1)
    (hoptions : tokens.filter Token.isOption = tokens'.filter Token.isOption)
    (hwords : ∀ sigil, tokensOf sigil tokens = tokensOf sigil tokens') :
    let sorted := sortLine leader activeTable registry tokens
    let sorted' := sortLine leader activeTable registry tokens'
    sorted'.1 = { sorted.1 with operators := sorted'.1.operators } ∧
      sorted.1.operators.Perm sorted'.1.operators ∧ sorted.2 = sorted'.2 ∧
      Failure.coded sorted.1.compile = Failure.coded sorted'.1.compile := by
  have hliteral' : isLiteralLine leader tokens' = false := by
    rw [isLiteralLine, ← hcommand]
    exact hliteral
  have happ := append_of_splitCommand leader tokens
  have happ' := append_of_splitCommand leader tokens'
  rw [← hcommand] at happ'
  -- the two lines differ after the command only
  have hrestOptions : (splitCommand leader tokens).2.filter Token.isOption =
      (splitCommand leader tokens').2.filter Token.isOption := by
    rw [happ, happ', List.filter_append, List.filter_append] at hoptions
    exact List.append_cancel_left hoptions
  have hrestWords : ∀ sigil, tokensOf sigil (splitCommand leader tokens).2 =
      tokensOf sigil (splitCommand leader tokens').2 := by
    intro sigil
    have hsigil := hwords sigil
    rw [happ, happ', tokensOf_append, tokensOf_append] at hsigil
    exact List.append_cancel_left hsigil
  rw [sortLine_eq activeTable registry hliteral, sortLine_eq activeTable registry hliteral', ← hcommand]
  obtain ⟨hq, hperm, hregistry⟩ :=
    placed_congr (splitCommand leader tokens).1 activeTable registry hrestOptions hrestWords
  refine ⟨hq, hperm, hregistry, ?_⟩
  rw [hq]
  exact Query.coded_compile_perm (recorded_placed _ _ _ _) hperm (literal_placed _ _ _ _)

/-- Operators of two kinds stand in either order, and the refusal has the same code. -/
theorem sortLine_interleaving_refused :
    let tokens := ["users", "age+=1", "-o", "+name.=x"]
    let tokens' := ["+name.=x", "users", "-o", "age+=1"]
    let q := (sortLine "\\" none .fresh tokens).1
    let q' := (sortLine "\\" none .fresh tokens').1
    q.operators = [⟨"+=", "", 0⟩, ⟨".=", "+", 0⟩] ∧ q'.operators = [⟨".=", "+", 0⟩, ⟨"+=", "", 0⟩] ∧
      Failure.coded q.compile = .error "INCONSISTENT_QUERY_TYPE" ∧
      Failure.coded q.compile = Failure.coded q'.compile := by
  intro tokens tokens' q q'
  have husers : Token.sigil "users" = "" := by decide +kernel
  have hage : Token.sigil "age+=1" = "" := by decide +kernel
  have hname : Token.sigil "+name.=x" = "+" := by decide +kernel
  have hoption : Token.isOption "-o" = true := by decide +kernel
  have hwords : ∀ sigil, tokensOf sigil tokens = tokensOf sigil tokens' := by
    intro sigil
    by_cases hs : "" = sigil
    · subst hs
      decide +kernel
    · simp [tokens, tokens', tokensOf, List.filter_cons, husers, hage, hname, hoption, hs]
  have h := sortLine_interleaving "\\" none .fresh tokens tokens' (by decide +kernel)
    (by decide +kernel) (by decide +kernel) hwords
  exact ⟨by decide +kernel, by decide +kernel, by decide +kernel, h.2.2.2⟩

end Sorting

end TerseQuery
