import Mathlib.Data.List.DropRight
import Mathlib.Data.List.ReduceOption
import TerseQuery.Proofs.Checked.Access
import TerseQuery.Proofs.ListLemmas
import TerseQuery.Session.Dispatch

/-!
# Tokens cut at bytes

A token is cut at the byte at which its first word character starts. The operator in a word is sought at each
`=`: what is before it is cut off, the run of other characters than word characters at its end is found
backwards, and the word is sliced from the start of this run to just after the `=`. None of these cuts fails,
whatever the characters are, and so none does when a line is sorted.

* `splitToken_eq`: the cut of a token;
* `operatorIn_places`, `operator_eq`: the operator in a word;
* `sortLine_eq_some`: a whole line.
-/

namespace TerseQuery.Checked

open Text

/-! ## Tokens -/

/-- A token cut at the byte at which its first word character starts, or at its end. -/
def splitToken (token : String) : Option (String × String) := do
  let first := (places 0 token.toList).find? fun place => isWordChar place.2
  let (sigil, word) ← splitAt? (first.elim token.utf8ByteSize Prod.fst) token.toList
  return (String.ofList sigil, String.ofList word)

/-- Whether a token sets an option. -/
def isOption (token : String) : Option Bool := do
  let (sigil, _) ← splitToken token
  return !sigil.toList.isEmpty && sigil.toList.all (· == '-')

/-- The first character with a property starts after the characters before it. -/
theorem elim_find?_places (p : Char → Bool) (start : Nat) (cs : List Char) :
    ((places start cs).find? fun place => p place.2).elim (start + byteLength cs) Prod.fst =
      start + byteLength (cs.takeWhile fun c => !p c) := by
  induction cs generalizing start with
  | nil => rfl
  | cons c rest ih =>
    cases hc : p c with
    | true => simp [places, hc]
    | false => simpa [places, hc, Nat.add_assoc] using ih (start + c.utf8Size)

theorem splitToken_eq (token : String) : splitToken token = some (Token.sigil token, Token.word token) := by
  have hfirst := elim_find?_places isWordChar 0 token.toList
  rw [Nat.zero_add, Nat.zero_add, byteLength_toList] at hfirst
  have hcut := splitAt?_append (token.toList.takeWhile fun c => !isWordChar c)
    (token.toList.dropWhile fun c => !isWordChar c)
  rw [List.takeWhile_append_dropWhile] at hcut
  rw [splitToken, hfirst, hcut]
  rfl

theorem isOption_eq (token : String) : isOption token = some (Token.isOption token) := by
  rw [isOption, splitToken_eq]
  rfl

/-! ## Operators -/

/-- The byte at which the run of other characters than word characters starts that a text ends with. -/
def runStart? (cs : List Char) : Option Nat :=
  ((places 0 cs).reverse.takeWhile fun place => !isWordChar place.2).getLast?.map Prod.fst

/-- The run that ends just before a byte, with the `=` at this byte, if it is an operator. -/
def operatorAt (cs : List Char) (stop : Nat) : Option (Option (List Char)) := do
  let before ← slice? 0 stop cs
  match runStart? before with
  | none => return none
  | some start =>
    let symbol ← slice? start (stop + 1) cs
    return if Token.comparisons.contains symbol then none else some symbol

/-- The first operator that ends at one of some places of a text. -/
def operatorIn (cs : List Char) : List (Nat × Char) → Option (Option (List Char))
  | [] => some none
  | (stop, c) :: rest =>
    if c = '=' then do
      match ← operatorAt cs stop with
      | some symbol => return some symbol
      | none => operatorIn cs rest
    else operatorIn cs rest

/-- The first operator in a text. -/
def operator (text : String) : Option (Option String) := do
  let symbol ← operatorIn text.toList (places 0 text.toList)
  return symbol.map String.ofList

/-- The characters other than word characters that a text ends with. -/
def endRun (cs : List Char) : List Char :=
  cs.rtakeWhile fun c => !isWordChar c

theorem endRun_append_singleton (before : List Char) (c : Char) :
    endRun (before ++ [c]) = if isWordChar c then [] else endRun before ++ [c] := by
  rw [endRun, List.rtakeWhile_concat]
  cases isWordChar c <;> rfl

/-- The places of the characters that a text ends with are found backwards. -/
theorem rtakeWhile_places (p : Char → Bool) (start : Nat) (cs : List Char) :
    (places start cs).rtakeWhile (fun place => p place.2) =
      places (start + byteLength (cs.rdropWhile p)) (cs.rtakeWhile p) := by
  induction cs using List.reverseRecOn with
  | nil => rfl
  | append_singleton before c ih =>
    rw [places_append, places, places, List.rtakeWhile_concat, List.rtakeWhile_concat, List.rdropWhile_concat]
    split
    · have hlength : byteLength before =
          byteLength (before.rdropWhile p) + byteLength (before.rtakeWhile p) := by
        rw [← byteLength_append, List.rdropWhile_append_rtakeWhile]
      rw [ih, places_append, hlength, Nat.add_assoc]
      rfl
    · rfl

theorem runStart?_eq (cs : List Char) :
    runStart? cs =
      if endRun cs = [] then none else some (byteLength (cs.rdropWhile fun c => !isWordChar c)) := by
  have hplaces := rtakeWhile_places (fun c => !isWordChar c) 0 cs
  rw [List.rtakeWhile, Nat.zero_add, ← endRun] at hplaces
  rw [runStart?, ← List.head?_reverse, hplaces]
  cases endRun cs <;> rfl

/-- At an `=` the run before it is found, and with the `=` it is a part of the text. -/
theorem operatorAt_append (before rest : List Char) :
    operatorAt (before ++ '=' :: rest) (byteLength before) =
      some (if endRun before ≠ [] ∧ endRun before ++ ['='] ∉ Token.comparisons then
        some (endRun before ++ ['=']) else none) := by
  have hsplit : before = (before.rdropWhile fun c => !isWordChar c) ++ endRun before :=
    List.rdropWhile_append_rtakeWhile.symm
  have hsymbol := slice?_append (before.rdropWhile fun c => !isWordChar c) (endRun before ++ ['=']) rest
  rw [byteLength_append, ← Nat.add_assoc, ← byteLength_append, ← List.append_assoc, ← hsplit, List.append_assoc,
    List.singleton_append] at hsymbol
  rw [operatorAt, slice?_zero_append, Option.bind_eq_bind, Option.bind_some, runStart?_eq]
  by_cases hrun : endRun before = []
  · simp [hrun]
  · -- The mark takes one byte, so the end of the slice is where the next character starts.
    have hone : byteLength ['='] = 1 := by decide
    rw [hone] at hsymbol
    by_cases hcompares : endRun before ++ ['='] ∈ Token.comparisons
    · simp [hrun, hsymbol, hcompares]
    · simp [hrun, hsymbol, hcompares]

/-- From a place on, the operators are those that are read from left to right, the run before this place being
read already. -/
theorem operatorIn_places (before rest : List Char) :
    operatorIn (before ++ rest) (places (byteLength before) rest) =
      some (Token.operatorFrom (endRun before) rest) := by
  -- The text stays the same while the place moves on, so the induction is over all cuts of it.
  induction rest generalizing before with
  | nil => rfl
  | cons c rest ih =>
    have hlater := ih (before ++ [c])
    rw [byteLength_append, byteLength_cons, byteLength_nil, Nat.add_zero, List.append_assoc,
      List.singleton_append, endRun_append_singleton] at hlater
    rw [places, operatorIn, Token.operatorFrom]
    by_cases hmark : c = '='
    · subst hmark
      have hword : isWordChar '=' = false := by decide
      rw [hword, if_neg Bool.false_ne_true] at hlater ⊢
      rw [if_pos rfl, operatorAt_append, Option.bind_eq_bind, Option.bind_some, hlater]
      by_cases hoperator : endRun before ≠ [] ∧ endRun before ++ ['='] ∉ Token.comparisons
      · rw [if_pos hoperator, if_pos ⟨rfl, hoperator⟩]
        rfl
      · rw [if_neg hoperator, if_neg fun h => hoperator h.2]
    · rw [if_neg hmark, hlater]
      split
      · rfl
      · rw [if_neg fun h => hmark h.1]

theorem operator_eq (text : String) : operator text = some (Token.operator? text) := by
  have hfound := operatorIn_places [] text.toList
  rw [List.nil_append, byteLength_nil] at hfound
  rw [operator, hfound]
  rfl

/-! ## Lines -/

/-- The command that a line starts with, and the tokens from the second one on. -/
def splitCommand (leader : String) (tokens : List String) : Option (Option String × List String) :=
  match tokens.head? with
  | none => some (none, tokens)
  | some first =>
    if leader = "" then some (none, tokens)
    else
      match Text.strip? first leader with
      | none => some (none, tokens)
      | some name => do
        let rest ← tokens.tail?
        return (some name, rest)

/-- One more token of a line. -/
def addToken (s : Sorting) (token : String) : Option Sorting := do
  if ← isOption token then return { s with registry := s.registry.setToken .transient token }
  let (sigil, word) ← splitToken token
  let found ← operator word
  if found.isNone && s.query.isQueryLine && sigil == "" && word != "" && s.query.table.isNone then
    return { s with query := { s.query with table := some ⟨word, false⟩ } }
  let before := s.query.bucket sigil
  return { s with
    query := { s.query with
      buckets := s.query.buckets.insert sigil (before ++ [word])
      operators := s.query.operators ++ (found.map (⟨·, sigil, before.length⟩)).toList } }

/-- The tokens of a line sorted. -/
def sortLine (leader : String) (activeTable : Option String) (registry : OptionRegistry)
    (tokens : List String) : Option (Query × OptionRegistry) := do
  let (command, rest) ← splitCommand leader tokens
  let start : Sorting := ⟨{ Query.empty with command, table := activeTable.map (⟨·, true⟩) }, registry⟩
  let sorted ←
    if command.any (Text.equalFolded literalVerb ·) then some (start.addLiteral rest)
    else rest.foldlM addToken start
  return ({ sorted.query with options := sorted.registry.effective }, sorted.registry)

/-- The tokens of a command line that are arguments. -/
def commandArguments (tokens : List String) : Option (List String) := do
  let arguments ← (tokens.drop 1).mapM fun token => do
    return if ← isOption token then none else some token
  return arguments.reduceOption

theorem splitCommand_eq (leader : String) (tokens : List String) :
    splitCommand leader tokens = some (TerseQuery.splitCommand leader tokens) := by
  cases tokens with
  | nil => rfl
  | cons first rest =>
    by_cases hleader : leader = ""
    · simp [splitCommand, TerseQuery.splitCommand, hleader]
    · cases hstrip : Text.strip? first leader <;> simp [splitCommand, TerseQuery.splitCommand, hleader, hstrip]

theorem addToken_eq (s : Sorting) (token : String) : addToken s token = some (s.addToken token) := by
  rw [addToken, isOption_eq, splitToken_eq]
  simp only [Option.bind_eq_bind, Option.bind_some, operator_eq]
  rw [Sorting.addToken, Sorting.namesTable, Sorting.addWord]
  split
  · rfl
  · split
    · rfl
    · cases Token.operator? (Token.word token) with
      | none => rw [Option.map_none, Option.toList_none, List.append_nil]; rfl
      | some symbol => rfl

theorem sortLine_eq_some (leader : String) (activeTable : Option String) (registry : OptionRegistry)
    (tokens : List String) :
    sortLine leader activeTable registry tokens =
      some (TerseQuery.sortLine leader activeTable registry tokens) := by
  have hadd : addToken = fun s token => pure (s.addToken token) := funext₂ addToken_eq
  rw [sortLine, splitCommand_eq, hadd, TerseQuery.sortLine]
  simp only [Option.bind_eq_bind, Option.bind_some, List.foldlM_pure]
  split <;> rfl

theorem commandArguments_eq (tokens : List String) :
    commandArguments tokens = some (TerseQuery.commandArguments tokens) := by
  have hmarked := mapM_eq_some_map (l := tokens.drop 1)
    (f := fun token => do return if ← isOption token then none else some token)
    (g := fun token => if Token.isOption token then none else some token)
    fun token _ => by rw [isOption_eq]; rfl
  have hkept : (fun token => if Token.isOption token then none else some token) =
      Option.guard fun token => !Token.isOption token := by
    funext token
    cases h : Token.isOption token <;> simp [Option.guard, h]
  rw [commandArguments, hmarked, hkept, Option.bind_eq_bind, Option.bind_some, List.reduceOption,
    List.filterMap_map, Function.id_comp, List.filterMap_eq_filter]
  rfl

end TerseQuery.Checked
