import TerseQuery.Proofs.ListLemmas
import TerseQuery.Proofs.Options.Groups
import TerseQuery.Proofs.Query.Placement
import TerseQuery.Proofs.Terse.Spelling
import TerseQuery.Proofs.Text.Cut

/-!
# Options as tokens

An option is read from a token and printed as one. Keys that are read hold no `=`, so a registry that only
tokens and commands have changed can be printed and read back.

* `isTokenOption_parseOption`, `parseOption_optionToken`: an option token gives an option that is read back
  from its own token;
* `isStrictOption_iff`, `isStrictOption_optionToken`: the options that may stand before literal SQL;
* `Reachable.exclusive`, `Reachable.plainKeys`: what is known of every registry that can be reached;
* `effective_setTokens_optionTokens`: options with one member of each group at most are read back together.
-/

namespace TerseQuery

open Text

/-! ## Keys and values -/

theorem not_mem_parseOption (token : String) : '=' ∉ (parseOption token).1.toList := by
  obtain ⟨key, hkey, hflag | ⟨value, htext⟩⟩ := exists_key token
  · rw [parseOption_flag hkey hflag, String.toList_ofList]
    exact hkey
  · rw [parseOption_text hkey htext, String.toList_ofList]
    exact hkey

/-- The key of a token is what stands after its dashes and before the first `=`. -/
theorem fst_parseOption (token : String) :
    (parseOption token).1.toList = (undashed token).takeWhile (· != '=') := by
  rw [← (OptionChange.set.inj (OptionChange.ofWord_eq token)).1, String.toList_ofList]

/-- A key of word characters only. -/
def IsWordKey (key : String) : Prop :=
  key ≠ "" ∧ ∀ c ∈ key.toList, isWordChar c = true

theorem IsWordKey.startsWord {key : String} (h : IsWordKey key) : StartsWord key := by
  cases hcs : key.toList with
  | nil => exact absurd (String.toList_eq_nil_iff.mp hcs) h.1
  | cons c rest => exact ⟨c, rest, hcs, h.2 c (hcs ▸ List.mem_cons_self)⟩

/-- Strict options are dashes and a key of word characters only. -/
theorem isStrictOption_iff {token : String} :
    Token.isStrictOption token = true ↔ token.toList.head? = some '-' ∧ IsWordKey (parseOption token).1 := by
  have hdashed : (undashed token).length ≠ token.length ↔ token.toList.head? = some '-' := by
    rw [undashed, ← String.length_toList]
    cases token.toList with
    | nil => simp
    | cons c rest =>
      have hrest := (List.dropWhile_sublist (l := rest) (· == '-')).length_le
      by_cases hc : c = '-'
      · simp only [hc, List.dropWhile_cons_of_pos, beq_self_eq_true, List.length_cons, List.head?_cons]
        simp only [iff_true]
        omega
      · simp [hc]
  have hkey := fst_parseOption token
  rw [undashed] at hkey hdashed
  rw [Token.isStrictOption, ← hkey, IsWordKey, ← hdashed]
  simp [and_assoc]

/-! ## Options and their tokens -/

theorem word_eq_empty_or_startsWord (token : String) : Token.word token = "" ∨ StartsWord (Token.word token) := by
  rw [Token.word]
  cases hrest : token.toList.dropWhile fun c => !isWordChar c with
  | nil => exact .inl rfl
  | cons c rest =>
    have hhead := List.head_dropWhile_not (p := fun c => !isWordChar c) (l := token.toList) (by simp [hrest])
    have hc : isWordChar c = true := by simpa [hrest] using hhead
    exact .inr ⟨c, rest, String.toList_ofList, hc⟩

/-- Only the dashes before a word are dropped. -/
theorem undashed_append {dashes word : String} (hdashes : ∀ c ∈ dashes.toList, c = '-')
    (hword : word = "" ∨ StartsWord word) : undashed (dashes ++ word) = word.toList := by
  rw [undashed, String.toList_append, List.dropWhile_append_of_pos fun c hc => by simp [hdashes c hc]]
  rcases hword with rfl | ⟨c, rest, hcs, hc⟩
  · rfl
  · have hdash : c ≠ '-' := by
      rintro rfl
      revert hc
      decide
    rw [hcs, List.dropWhile_cons_of_neg (by simp [hdash])]

/-- An option as tokens give it: its key starts a word, or it is the flag without key. -/
def IsTokenOption (option : String × OptionValue) : Prop :=
  StartsWord option.1 ∨ option = ("", .flag)

instance {option : String × OptionValue} : Decidable (IsTokenOption option) :=
  inferInstanceAs (Decidable (_ ∨ _))

theorem isTokenOption_parseOption {token : String} (h : Token.isOption token = true) :
    IsTokenOption (parseOption token) := by
  have hundashed : undashed token = (Token.word token).toList := by
    have happend := undashed_append (Token.isOption_iff.mp h).2 (word_eq_empty_or_startsWord token)
    rwa [Token.sigil_append_word] at happend
  rcases word_eq_empty_or_startsWord token with hempty | ⟨c, rest, hcs, hc⟩
  · right
    rw [hempty] at hundashed
    exact parseOption_flag List.not_mem_nil hundashed
  · left
    have hequals : '=' ≠ c := by
      rintro rfl
      revert hc
      decide
    rw [hcs] at hundashed
    obtain ⟨key, hkey, hflag | ⟨value, htext⟩⟩ := exists_key token
    · rw [parseOption_flag hkey hflag]
      exact ⟨c, rest, by rw [String.toList_ofList, ← hflag, hundashed], hc⟩
    · rw [parseOption_text hkey htext]
      rw [hundashed] at htext
      cases key with
      | nil => exact absurd (List.cons.inj htext).1.symm hequals
      | cons d key =>
        obtain ⟨rfl, -⟩ := List.cons.inj htext
        exact ⟨c, key, String.toList_ofList, hc⟩

section
variable {option : String × OptionValue} (h : IsTokenOption option)
include h

theorem exists_optionToken_eq : ∃ word, Query.optionToken option = "-" ++ word ∧ (word = "" ∨ StartsWord word) := by
  obtain ⟨key, value⟩ := option
  rcases h with hstarts | hflag
  · cases value with
    | flag => exact ⟨key, rfl, .inr hstarts⟩
    | text value =>
      refine ⟨key ++ "=" ++ value, ?_, .inr ((StartsWord.append hstarts "=").append value)⟩
      simp only [Query.optionToken, String.append_assoc]
  · obtain ⟨rfl, rfl⟩ := Prod.mk.inj hflag
    exact ⟨"", rfl, .inl rfl⟩

theorem isOption_optionToken : Token.isOption (Query.optionToken option) = true := by
  obtain ⟨word, htoken, hempty | hstarts⟩ := exists_optionToken_eq h
  · rw [htoken, hempty]
    decide +kernel
  · have hdash : ∀ c ∈ "-".toList, isWordChar c = false := List.all_iff_forall_prop.mp (by decide)
    rw [htoken, Token.isOption_iff, Token.sigil_append hdash hstarts]
    exact ⟨by decide, List.all_iff_forall_prop.mp (by decide)⟩

/-- An option is read back from its own token. -/
theorem parseOption_optionToken (hkey : '=' ∉ option.1.toList) :
    parseOption (Query.optionToken option) = option := by
  have hdash : ∀ c ∈ "-".toList, c = '-' := List.all_iff_forall_prop.mp (by decide)
  obtain ⟨word, htoken, hword⟩ := exists_optionToken_eq h
  have hundashed : undashed (Query.optionToken option) = word.toList := by
    rw [htoken, undashed_append hdash hword]
  obtain ⟨key, value⟩ := option
  cases value with
  | flag =>
    have hsame : word = key := (String.append_right_inj "-").mp htoken.symm
    rw [parseOption_flag hkey (hsame ▸ hundashed), String.ofList_toList]
  | text value =>
    have hsame : word = key ++ ("=" ++ value) := by
      apply (String.append_right_inj "-").mp
      rw [← htoken]
      simp only [Query.optionToken, String.append_assoc]
    have htext : undashed (Query.optionToken (key, .text value)) = key.toList ++ '=' :: value.toList := by
      rw [hundashed, hsame, String.toList_append, String.toList_append]
      rfl
    rw [parseOption_text hkey htext, String.ofList_toList, String.ofList_toList]

end

/-- An option whose key is a word is printed as a strict option. -/
theorem isStrictOption_optionToken {option : String × OptionValue} (h : IsWordKey option.1) :
    Token.isStrictOption (Query.optionToken option) = true := by
  have hstarts : IsTokenOption option := .inl h.startsWord
  have hequals : '=' ∉ option.1.toList := by
    intro hmem
    exact absurd (h.2 _ hmem) (by decide)
  obtain ⟨word, htoken, -⟩ := exists_optionToken_eq hstarts
  rw [isStrictOption_iff, parseOption_optionToken hstarts hequals, htoken, String.toList_append]
  exact ⟨rfl, h⟩

/-! ## Registries that can be reached -/

/-- An operation as tokens and commands ask for it: what is set is read from a token. -/
def RegistryOp.IsAsked : RegistryOp → Prop
  | set key value _ => ∃ token, parseOption token = (key, value)
  | _ => True

namespace OptionRegistry

/-- A registry that tokens and commands lead to. -/
def Reachable (r : OptionRegistry) : Prop :=
  ∃ ops : List RegistryOp, (∀ op ∈ ops, op.IsAsked) ∧ r = run ops

theorem reachable_fresh : Reachable fresh :=
  ⟨[], fun _ hop => absurd hop List.not_mem_nil, rfl⟩

section
variable {r : OptionRegistry} (h : r.Reachable)
include h

theorem Reachable.apply {op : RegistryOp} (hop : op.IsAsked) : (r.apply op).Reachable := by
  obtain ⟨ops, hops, rfl⟩ := h
  refine ⟨ops ++ [op], ?_, ?_⟩
  · intro other hother
    rcases List.mem_append.mp hother with hold | hnew
    · exact hops other hold
    · rw [List.mem_singleton.mp hnew]
      exact hop
  · rw [run, run, List.foldl_append]
    rfl

theorem Reachable.set_of_parseOption {token key : String} {value : OptionValue}
    (htoken : parseOption token = (key, value)) (scope : Scope) : (r.set key value scope).Reachable := by
  have hasked : (RegistryOp.set key value scope).IsAsked := ⟨token, htoken⟩
  exact h.apply hasked

theorem Reachable.setToken (scope : Scope) (token : String) : (r.setToken scope token).Reachable :=
  h.set_of_parseOption (Prod.eta _).symm scope

theorem Reachable.setTokens (tokens : List String) : (Sorting.setTokens r tokens).Reachable := by
  induction tokens generalizing r with
  | nil => exact h
  | cons token rest ih =>
    rw [Sorting.setTokens, List.foldl_cons]
    exact ih (h.setToken .transient token)

theorem Reachable.exclusive (scope : Scope) : (r.inScope scope).Exclusive := by
  obtain ⟨ops, -, rfl⟩ := h
  exact exclusive_inScope_run ops scope

end

end OptionRegistry

/-- Options whose keys hold no `=`. -/
def OptionMap.PlainKeys (map : OptionMap) : Prop :=
  ∀ key, map.contains key = true → '=' ∉ key.toList

/-- Each change sets a key without `=`. -/
def OptionChange.IsPlain : OptionChange → Prop
  | set key _ => '=' ∉ key.toList
  | _ => True

open OptionMap

theorem OptionMap.PlainKeys.foldl_change {map : OptionMap} (h : map.PlainKeys) {changes : List OptionChange}
    (hchanges : ∀ c ∈ changes, c.IsPlain) : (changes.foldl OptionMap.change map).PlainKeys := by
  intro key hcontains
  rcases contains_foldl_change hcontains with hold | ⟨value, hset⟩
  · exact h key hold
  · exact hchanges _ hset

theorem RegistryOp.isPlain_changes {op : RegistryOp} (h : op.IsAsked) {scope : Scope} {seeded : Bool} :
    ∀ c ∈ op.changes scope seeded, c.IsPlain := by
  intro c hc
  cases op with
  | set key value target =>
    obtain ⟨token, htoken⟩ := h
    have hkey := not_mem_parseOption token
    rw [htoken] at hkey
    rw [List.mem_singleton.mp (mem_of_mem_ite_nil hc)]
    exact hkey
  | setExclusive group key member target =>
    have hall : ∀ key ∈ group.keys, '=' ∉ key.toList := by cases group <;> decide
    rw [List.mem_singleton.mp (mem_of_mem_ite_nil hc)]
    exact hall key member
  | unset key target =>
    rw [List.mem_singleton.mp (mem_of_mem_ite_nil hc)]
    trivial
  | clearTransient =>
    rw [List.mem_singleton.mp (mem_of_mem_ite_nil hc)]
    trivial
  | seed format runMode extra =>
    rcases List.mem_append.mp (mem_of_mem_ite_nil hc) with hflag | htoken
    · obtain ⟨key, hkey, rfl⟩ := List.mem_map.mp hflag
      have hall : ∀ key ∈ format.key :: runMode.optionKeys, '=' ∉ key.toList := by
        cases format <;> cases runMode <;> decide
      exact hall key hkey
    · obtain ⟨word, -, rfl⟩ := List.mem_map.mp htoken
      rw [OptionChange.ofWord_eq]
      exact not_mem_parseOption word

theorem RegistryOp.isPlain_changesFrom {ops : List RegistryOp} (h : ∀ op ∈ ops, op.IsAsked) {scope : Scope}
    {seeded : Bool} : ∀ c ∈ changesFrom scope seeded ops, c.IsPlain := by
  induction ops generalizing seeded with
  | nil =>
    intro c hc
    cases hc
  | cons op rest ih =>
    intro c hc
    rcases List.mem_append.mp hc with hhere | hlater
    · exact isPlain_changes (h op List.mem_cons_self) c hhere
    · exact ih (fun other hother => h other (List.mem_cons_of_mem _ hother)) c hlater

namespace OptionRegistry

section
variable {r : OptionRegistry} (h : r.Reachable)
include h

theorem Reachable.plainKeys (scope : Scope) : (r.inScope scope).PlainKeys := by
  obtain ⟨ops, hops, rfl⟩ := h
  have hempty : PlainKeys .empty := by
    intro key hcontains
    cases hcontains
  rw [inScope_run]
  exact hempty.foldl_change (RegistryOp.isPlain_changesFrom hops)

theorem Reachable.exclusive_effective : r.effective.Exclusive :=
  OptionRegistry.exclusive_effective (h.exclusive .transient) (h.exclusive .persistent)

theorem Reachable.plainKeys_effective : r.effective.PlainKeys := by
  intro key hcontains
  obtain ⟨value, hget⟩ := contains_iff.mp hcontains
  have htransient : r.transient.Exclusive := h.exclusive .transient
  rw [get?_effective_of_exclusive htransient] at hget
  split at hget
  · rename_i v hv
    exact h.plainKeys .transient key (contains_iff.mpr ⟨v, hv⟩)
  · split at hget
    · cases hget
    · exact h.plainKeys .persistent key (contains_iff.mpr ⟨value, hget⟩)

end

/-! ## Reading printed options -/

/-- Over no persistent options the transient ones are in effect as they are. -/
theorem effective_of_exclusive {map : OptionMap} (h : map.Exclusive) (seeded : Bool) :
    (⟨.empty, map, seeded⟩ : OptionRegistry).effective = map := by
  apply Dict.ext_get?
  intro key
  rw [get?_effective_of_exclusive h]
  cases hget : Dict.get? map key with
  | some value => rfl
  | none => simp

end OptionRegistry

theorem OptionMap.Exclusive.set_eq_put {map : OptionMap} (h : map.Exclusive) {entry : String × OptionValue}
    (hentry : entry ∈ map.entries) (other : OptionMap) :
    other.set entry.1 entry.2 = other.put entry.1 entry.2 := by
  rw [OptionMap.set]
  cases hgroup : OptionGroup.ofKey? entry.1 with
  | none => rfl
  | some group =>
    have hmember := OptionGroup.mem_keys_of_ofKey? hgroup
    rw [h.flag group entry.1 hmember entry.2 (Dict.get?_of_mem hentry)]
    rfl

/-- The tokens of options, set one after the other, set these options again. -/
theorem effective_setTokens_optionTokens {map : OptionMap} (h : map.Exclusive) (hplain : map.PlainKeys)
    (htokens : ∀ option ∈ map.entries, IsTokenOption option) :
    (Sorting.setTokens .fresh (map.entries.map Query.optionToken)).effective = map := by
  have hset : ∀ (options : List (String × OptionValue)), (∀ option ∈ options, option ∈ map.entries) →
      ∀ r : OptionRegistry, Sorting.setTokens r (options.map Query.optionToken) =
        { r with
          transient := options.foldl
            (fun (map : OptionMap) option => map.put option.1 option.2) r.transient } := by
    intro options
    induction options with
    | nil => exact fun _ _ => rfl
    | cons option rest ih =>
      intro hmem r
      have hoption := hmem option List.mem_cons_self
      have hkey := hplain option.1 (contains_iff.mpr ⟨option.2, Dict.get?_of_mem hoption⟩)
      have hread := parseOption_optionToken (htokens option hoption) hkey
      have hput : r.setToken .transient (Query.optionToken option) =
          { r with transient := r.transient.put option.1 option.2 } := by
        rw [← h.set_eq_put hoption, OptionRegistry.setToken, hread]
        rfl
      rw [List.map_cons, Sorting.setTokens, List.foldl_cons, hput]
      exact ih (fun other hother => hmem other (List.mem_cons_of_mem _ hother)) _
  have hmap := OptionRegistry.effective_of_exclusive h false
  rw [hset map.entries fun _ hoption => hoption]
  -- what was put over no options is what such a registry has in effect
  have htransient : map.entries.foldl (fun (map : OptionMap) option => map.put option.1 option.2) .empty =
      map := hmap
  rw [show OptionRegistry.fresh.transient = .empty from rfl, htransient]
  exact hmap

/-- Every option that tokens set over none has its key from one of them. -/
theorem exists_token_of_mem_effective {tokens : List String} {option : String × OptionValue}
    (h : option ∈ (Sorting.setTokens .fresh tokens).effective.entries) :
    ∃ token ∈ tokens, (parseOption token).1 = option.1 := by
  have hset : Sorting.setTokens .fresh tokens = ⟨.empty, (tokens.map fun token =>
      OptionChange.set (parseOption token).1 (parseOption token).2).foldl OptionMap.change .empty, false⟩ :=
    OptionRegistry.foldl_set parseOption .transient tokens .fresh
  have hexclusive : (Sorting.setTokens .fresh tokens).transient.Exclusive :=
    (OptionRegistry.reachable_fresh.setTokens tokens).exclusive .transient
  rw [hset] at h hexclusive
  rw [OptionRegistry.effective_of_exclusive hexclusive] at h
  rcases contains_foldl_change (contains_iff.mpr ⟨option.2, Dict.get?_of_mem h⟩) with hold | ⟨value, hmem⟩
  · cases hold
  · obtain ⟨token, htoken, hchange⟩ := List.mem_map.mp hmem
    obtain ⟨hkey, -⟩ := OptionChange.set.inj hchange
    exact ⟨token, htoken, hkey⟩

end TerseQuery
