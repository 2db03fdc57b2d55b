import Mathlib.Data.Bool.AllAny
import TerseQuery.Proofs.Options.Effective
import TerseQuery.Proofs.Query.Placement
import TerseQuery.Proofs.Terse.Spelling
import TerseQuery.Sql.Synthesis

/-!
# Items of a terse line

A terse line is a table and items in any order, each item one token.

* `Item.Fits`: the items that a kind of statement is made of;
* `Fits.located`, `isOption_token`: each token goes where its item says;
* `spells_sortLine`: what a line of such items is when it is sorted.
-/

namespace TerseQuery

open Sql

/-- An item of a terse line. -/
inductive Item where
  | predicate (p : Predicate)
  /-- A column, an operator and a value: an assignment, a pair or a marker. -/
  | marked (column operator value : String)
  | listed (sigil name : String)
  | limit (n : Nat)
  | anyOf
  | twoValued
  deriving DecidableEq

namespace Item

def token : Item → String
  | predicate p => p.text
  | marked column operator value => column ++ operator ++ value
  | listed sigil name => sigil ++ name
  | limit n => "-limit=" ++ toString n
  | anyOf => "-o"
  | twoValued => "-2v"

/-- The sigil and the word of an item that is no option. -/
def place? : Item → Option (String × String)
  | predicate p => some (conditionSigil, p.text)
  | marked column operator value => some (conditionSigil, column ++ operator ++ value)
  | listed sigil name => some (sigil, name)
  | _ => none

/-- The word of an item with a sigil. -/
def wordAt? (sigil : String) (item : Item) : Option String :=
  (item.place?.filter (·.1 = sigil)).map Prod.snd

@[simp]
theorem wordAt?_predicate (sigil : String) (p : Predicate) :
    wordAt? sigil (.predicate p) = if conditionSigil = sigil then some p.text else none := by
  by_cases h : conditionSigil = sigil <;> simp [wordAt?, place?, h]

@[simp]
theorem wordAt?_marked (sigil column operator value : String) :
    wordAt? sigil (.marked column operator value) =
      if conditionSigil = sigil then some (column ++ operator ++ value) else none := by
  by_cases h : conditionSigil = sigil <;> simp [wordAt?, place?, h]

@[simp]
theorem wordAt?_listed (sigil own name : String) :
    wordAt? sigil (.listed own name) = if own = sigil then some name else none := by
  by_cases h : own = sigil <;> simp [wordAt?, place?, h]

def option? : Item → Option (String × OptionValue)
  | limit n => some ("limit", .text (toString n))
  | anyOf => some ("o", .flag)
  | twoValued => some ("2v", .flag)
  | _ => none

def operator? : Item → Option String
  | marked _ operator _ => some operator
  | _ => none

/-- The items that a kind of statement is made of, spelled so that they can be told apart. -/
inductive Fits : QueryKind → Item → Prop where
  | predicate {kind : QueryKind} {p : Predicate} (hkind : kind ≠ .insert) (hp : p.Spelled) :
      Fits kind (.predicate p)
  | assignment {column operator : String} (value : String) (hcolumn : IsName column)
      (hoperator : operator ∈ ["+=", "-=", "*=", "/=", "%=", ":="]) :
      Fits .update (.marked column operator value)
  | pair {column : String} (value : String) (hcolumn : IsName column) :
      Fits .insert (.marked column ".=" value)
  | marker {column : String} (value : String) (hcolumn : IsName column) :
      Fits .delete (.marked column "~=" value)
  | shown {entry : String} (hstarts : StartsWord entry) (hequals : '=' ∉ entry.toList) :
      Fits .select (.listed "+" entry)
  | grouped {column : String} (hcolumn : IsName column) : Fits .select (.listed "%" column)
  | ordered {column : String} (hcolumn : IsName column) : Fits .select (.listed "/" column)
  | limit {kind : QueryKind} {n : Nat} (hn : n < UInt64.size) : Fits kind (.limit n)
  | anyOf {kind : QueryKind} : Fits kind .anyOf
  | twoValued {kind : QueryKind} : Fits kind .twoValued

/-! ## Words -/

section
variable {kind : QueryKind} {item : Item} {column sigil word symbol : String}

/-- An operator of an item asks for the kind that the item fits. -/
theorem Fits.ofOperator (h : item.Fits kind) (hop : item.operator? = some symbol) :
    QueryKind.ofOperator symbol = kind := by
  cases h with
  | assignment value hcolumn hoperator =>
    cases hop
    exact QueryKind.ofOperator_eq_update_iff.mpr hoperator
  | pair | marker =>
    cases hop
    decide
  | _ => cases hop

/-- What an item that is no option has to say of its place. -/
structure Located (item : Item) (sigil word : String) : Prop where
  starts : StartsWord word
  known : sigil ∈ knownSigils
  token : item.token = sigil ++ word
  operator : Token.operator? word = item.operator?
  plain : item.operator? ≠ none → sigil = conditionSigil
  name : sigil = groupSigil ∨ sigil = orderSigil → isIdentifier word = true

theorem located_marked {operator : String} (hcolumn : IsName column)
    (hoperator : QueryKind.ofOperator operator ≠ .undetermined) (value : String) :
    Located (.marked column operator value) conditionSigil (column ++ operator ++ value) where
  starts := (hcolumn.starts.append operator).append value
  known := by decide
  token := rfl
  operator := Token.operator?_marked hcolumn hoperator value
  plain _ := rfl
  name h := absurd h (by decide)

theorem located_column (hcolumn : IsName column) (hknown : sigil ∈ knownSigils) :
    Located (.listed sigil column) sigil column where
  starts := hcolumn.starts
  known := hknown
  token := rfl
  operator := Token.operator?_eq_none fun hmem => hcolumn.ne_equals '=' hmem rfl
  plain h := absurd rfl h
  name _ := hcolumn.isIdentifier

theorem Fits.located (h : item.Fits kind) (hplace : item.place? = some (sigil, word)) :
    item.Located sigil word := by
  cases h with
  | predicate hkind hp =>
    cases hplace
    exact {
      starts := (hp.column.starts.append _).append _
      known := by decide
      token := rfl
      operator := Token.operator?_text hp.column hp.value
      plain := fun _ => rfl
      name := fun h => absurd h (by decide) }
  | assignment value hcolumn hoperator =>
    cases hplace
    exact located_marked hcolumn (by rw [QueryKind.ofOperator_eq_update_iff.mpr hoperator]; decide) value
  | pair value hcolumn =>
    cases hplace
    exact located_marked hcolumn (by decide) value
  | marker value hcolumn =>
    cases hplace
    exact located_marked hcolumn (by decide) value
  | shown hstarts hequals =>
    cases hplace
    exact {
      starts := hstarts
      known := by decide
      token := rfl
      operator := Token.operator?_eq_none hequals
      plain := fun h => absurd rfl h
      name := fun h => absurd h (by decide) }
  | grouped hcolumn =>
    cases hplace
    exact located_column hcolumn (by decide)
  | ordered hcolumn =>
    cases hplace
    exact located_column hcolumn (by decide)
  | _ => cases hplace

theorem knownSigils_chars : ∀ sigil ∈ knownSigils,
    (∀ c ∈ sigil.toList, Text.isWordChar c = false) ∧ ¬ Token.IsDashes sigil := by
  have hall : ∀ sigil ∈ knownSigils, sigil.toList.all (Text.isWordChar · = false) = true ∧
      (sigil = "" ∨ sigil.toList.any (· ≠ '-') = true) := by decide
  intro sigil hsigil
  obtain ⟨hchars, hdash⟩ := hall sigil hsigil
  refine ⟨List.all_iff_forall_prop.mp hchars, ?_⟩
  rintro ⟨hne, hdashes⟩
  rcases hdash with hempty | hany
  · exact hne hempty
  · obtain ⟨c, hc, hcdash⟩ := List.any_iff_exists_prop.mp hany
    exact hcdash (hdashes c hc)

namespace Located

variable (h : item.Located sigil word)
include h

theorem sigil_token : Token.sigil item.token = sigil := by
  rw [h.token]
  exact Token.sigil_append (knownSigils_chars sigil h.known).1 h.starts

theorem word_token : Token.word item.token = word := by
  rw [h.token]
  exact Token.word_append (knownSigils_chars sigil h.known).1 h.starts

theorem isOption_token : Token.isOption item.token = false := by
  cases hoption : Token.isOption item.token with
  | false => rfl
  | true =>
    rw [Token.isOption_iff, h.sigil_token] at hoption
    exact absurd hoption (knownSigils_chars sigil h.known).2

end Located

end

/-! ## Options -/

theorem parseOption_limit (n : Nat) :
    parseOption ("-limit=" ++ toString n) = ("limit", .text (toString n)) := by
  simp [parseOption, Text.cutAt?, Text.cut?, List.isPrefixOf, Nat.repr_eq_ofList_toDigits]

/-- An item without a place is an option, and its token sets it. -/
theorem isOption_token {item : Item} {option : String × OptionValue} (h : item.option? = some option) :
    Token.isOption item.token = true ∧ parseOption item.token = option := by
  cases item with
  | limit n =>
    cases h
    have hlimit : StartsWord ("limit=" ++ toString n) :=
      StartsWord.append ⟨'l', "imit=".toList, rfl, by decide⟩ (toString n)
    have htoken : token (limit n) = "-" ++ ("limit=" ++ toString n) := by
      rw [← String.append_assoc]
      rfl
    refine ⟨?_, parseOption_limit n⟩
    rw [htoken, Token.isOption_iff, Token.sigil_append (List.all_iff_forall_prop.mp (by decide)) hlimit]
    exact ⟨by decide, List.all_iff_forall_prop.mp (by decide)⟩
  | anyOf =>
    cases h
    exact ⟨by decide +kernel, by decide +kernel⟩
  | twoValued =>
    cases h
    exact ⟨by decide +kernel, by decide +kernel⟩
  | _ => cases h

theorem exists_option {item : Item} (h : item.place? = none) :
    ∃ option, item.option? = some option := by
  cases item with
  | limit | anyOf | twoValued => exact ⟨_, rfl⟩
  | _ => cases h

theorem mem_of_option? {item : Item} {option : String × OptionValue} (h : item.option? = some option) :
    option.1 ∈ ["limit", "o", "2v"] := by
  cases item with
  | limit | anyOf | twoValued =>
    cases h
    simp
  | _ => cases h

theorem option?_eq_none {item : Item} {place : String × String} (h : item.place? = some place) :
    item.option? = none := by
  cases item with
  | predicate | marked | listed => rfl
  | _ => cases h

/-! ## Lines -/

section
variable {kind : QueryKind} {items : List Item}

theorem wordsOf_items (hfits : ∀ item ∈ items, item.Fits kind) (sigil : String) :
    Sorting.wordsOf sigil ((items.map token).filter (!Token.isOption ·)) =
      items.filterMap (wordAt? sigil) := by
  induction items with
  | nil => rfl
  | cons item rest ih =>
    have hrest := ih fun other hother => hfits other (List.mem_cons_of_mem _ hother)
    rw [List.map_cons]
    cases hplace : item.place? with
    | none =>
      obtain ⟨option, hoption⟩ := exists_option hplace
      have hword : wordAt? sigil item = none := by simp [wordAt?, hplace]
      rw [List.filter_cons_of_neg (by simp [(isOption_token hoption).1]), hrest,
        List.filterMap_cons_none hword]
    | some place =>
      obtain ⟨s, word⟩ := place
      have hlocated := (hfits item List.mem_cons_self).located hplace
      rw [List.filter_cons_of_pos (by simp [hlocated.isOption_token]), Sorting.wordsOf_cons, hrest,
        hlocated.sigil_token, hlocated.word_token]
      by_cases hs : s = sigil
      · have hword : wordAt? sigil item = some word := by simp [wordAt?, hplace, hs]
        rw [if_pos hs, List.filterMap_cons_some hword]
      · have hword : wordAt? sigil item = none := by simp [wordAt?, hplace, hs]
        rw [if_neg hs, List.filterMap_cons_none hword]

theorem set_eq_put {item : Item} {option : String × OptionValue} (h : item.option? = some option)
    (map : OptionMap) : map.set option.1 option.2 = map.put option.1 option.2 := by
  cases item with
  | limit | anyOf | twoValued =>
    cases h
    rfl
  | _ => cases h

theorem setTokens_items (hfits : ∀ item ∈ items, item.Fits kind) (r : OptionRegistry) :
    Sorting.setTokens r ((items.map token).filter Token.isOption) =
      { r with
        transient := (items.filterMap option?).foldl
          (fun (map : OptionMap) option => map.put option.1 option.2) r.transient } := by
  induction items generalizing r with
  | nil => rfl
  | cons item rest ih =>
    have hrest := ih fun other hother => hfits other (List.mem_cons_of_mem _ hother)
    rw [List.map_cons]
    cases hplace : item.place? with
    | none =>
      obtain ⟨option, hoption⟩ := exists_option hplace
      obtain ⟨hisOption, hparse⟩ := isOption_token hoption
      have hset : r.setToken .transient item.token =
          { r with transient := r.transient.put option.1 option.2 } := by
        rw [← set_eq_put hoption, OptionRegistry.setToken, hparse]
        rfl
      rw [List.filter_cons_of_pos hisOption, List.filterMap_cons_some hoption, List.foldl_cons,
        Sorting.setTokens, List.foldl_cons, hset]
      exact hrest _
    | some place =>
      have hlocated := (hfits item List.mem_cons_self).located hplace
      rw [List.filter_cons_of_neg (by simp [hlocated.isOption_token]),
        List.filterMap_cons_none (option?_eq_none hplace)]
      exact hrest r

end

end Item

section
variable {table : String}

theorem splitCommand_of_isName (h : IsName table) (tokens : List String) :
    splitCommand "\\" (table :: tokens) = (none, table :: tokens) := by
  obtain ⟨c, rest, htable, hc⟩ := h.starts
  have hslash : '\\' ≠ c := by
    rintro rfl
    revert hc
    decide
  have hstrip : Text.strip? table "\\" = none := by
    simp [Text.strip?, htable, List.isPrefixOf, hslash]
  simp [splitCommand, hstrip]

theorem sigil_of_isName (h : IsName table) : Token.sigil table = "" := by
  have hsigil : Token.sigil ("" ++ table) = "" :=
    Token.sigil_append (List.all_iff_forall_prop.mp (by decide)) h.starts
  rwa [String.empty_append] at hsigil

theorem isPlainName_of_isName (h : IsName table) : Token.isPlainName table = true := by
  have hsigil := sigil_of_isName h
  have hoperator := Token.operator?_eq_none fun hmem => h.ne_equals '=' hmem rfl
  simp [Token.isPlainName, hsigil, Token.word_eq_of_sigil_eq hsigil, h.starts.ne_empty, hoperator]

theorem wordTokens_of_isName (h : IsName table) (tokens : List String) :
    Sorting.wordTokens true (table :: tokens) = tokens.filter (!Token.isOption ·) := by
  have hoption := Token.not_isOption_of_sigil_eq (sigil_of_isName h)
  simp [Sorting.wordTokens, hoption, isPlainName_of_isName h]

theorem tableToken?_of_isName (h : IsName table) (tokens : List String) :
    Sorting.tableToken? true (table :: tokens) = some table := by
  have hoption := Token.not_isOption_of_sigil_eq (sigil_of_isName h)
  simp [Sorting.tableToken?, hoption, isPlainName_of_isName h]

end

/-- The keys of options that compiling asks for. -/
def askedKeys : List String := ["limit", "o", "2v", "I", "U", "D"]

theorem options_items {items : List Item} {kind : QueryKind} {key : String}
    (hfits : ∀ item ∈ items, item.Fits kind) (hkey : key ∈ askedKeys) :
    (Sorting.setTokens .fresh ((items.map Item.token).filter Token.isOption)).effective.get? key =
      OptionMap.lastValue? key (items.filterMap Item.option?) := by
  have hkeys : ∀ option ∈ items.filterMap Item.option?, option.1 ∈ ["limit", "o", "2v"] := by
    intro option hoption
    obtain ⟨item, -, hitem⟩ := List.mem_filterMap.mp hoption
    exact Item.mem_of_option? hitem
  have hclears : ∀ own ∈ ["limit", "o", "2v"], ∀ asked ∈ askedKeys,
      OptionMap.clears own asked = true → own = asked := by
    decide
  rw [Item.setTokens_items hfits, OptionRegistry.get?_effective rfl]
  · rw [OptionMap.get?_foldl_put fun option hoption => hclears _ (hkeys option hoption) key hkey]
    exact Option.or_none
  · intro entry hentry
    obtain ⟨option, hoption, hsame⟩ := OptionMap.exists_of_mem_foldl_put hentry
    rw [← hsame]
    exact hclears _ (hkeys option hoption) key hkey

/-- A sorted line is that of a table and items. -/
structure Spells (table : String) (items : List Item) (q : Query) : Prop where
  command : q.command = none
  literal : q.literal = none
  table : q.table = some ⟨table, false⟩
  bucket : ∀ sigil, q.bucket sigil = items.filterMap (Item.wordAt? sigil)
  inhabited : ∀ entry ∈ q.buckets.entries, q.bucket entry.1 ≠ []
  recorded : q.Recorded
  options : ∀ key ∈ askedKeys,
    q.options.get? key = OptionMap.lastValue? key (items.filterMap Item.option?)

/-- A line of a table and items is sorted as they say, whatever their order. -/
theorem spells_sortLine {table : String} {items : List Item} {kind : QueryKind} (htable : IsName table)
    (hfits : ∀ item ∈ items, item.Fits kind) :
    Spells table items (sortLine "\\" none .fresh (table :: items.map Item.token)).1 := by
  have hsplit := splitCommand_of_isName htable (items.map Item.token)
  have hliteral : Sorting.isLiteralLine "\\" (table :: items.map Item.token) = false := by
    simp [Sorting.isLiteralLine, hsplit]
  have htakes : Sorting.lineTakesTable none none = true := rfl
  rw [Sorting.sortLine_eq none .fresh hliteral, hsplit]
  have hbucket : ∀ sigil,
      Sorting.wordsOf sigil (Sorting.wordTokens (Sorting.lineTakesTable none none)
        (table :: items.map Item.token)) = items.filterMap (Item.wordAt? sigil) := by
    intro sigil
    rw [htakes, wordTokens_of_isName htable, Item.wordsOf_items hfits]
  constructor
  case command => exact Sorting.command_placed _ _ _ _
  case literal => exact Sorting.literal_placed _ _ _ _
  case recorded => exact Sorting.recorded_placed _ _ _ _
  case table =>
    simp only [Sorting.placed, htakes, tableToken?_of_isName htable]
    rfl
  case bucket =>
    intro sigil
    rw [Sorting.bucket_placed, hbucket]
  case inhabited =>
    intro entry hentry
    have hget := Dict.get?_of_mem hentry
    rw [Sorting.bucket_placed]
    rw [Sorting.get?_buckets_placed] at hget
    split at hget
    · cases hget
    · assumption
  case options =>
    intro key hkey
    have hoption := Token.not_isOption_of_sigil_eq (sigil_of_isName htable)
    rw [Sorting.options_placed, List.filter_cons_of_neg (by simp [hoption]), options_items hfits hkey]

end TerseQuery
