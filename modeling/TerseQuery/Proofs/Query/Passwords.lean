import Mathlib.Data.List.DropRight
import Mathlib.Data.List.Find
import Mathlib.Data.List.TakeWhile
import TerseQuery.Proofs.Options.Difference
import TerseQuery.Proofs.Query.Printing
import TerseQuery.Proofs.Session.SideBySide
import TerseQuery.Proofs.Sql.Words

/-!
# Lines that differ in a password

A password is given to a line as an option. With another one in its place, a line is sorted into the same
query but for that option, and no part of a query but the password itself is read from it.

* `Sorting.withPassword`: a line with another password;
* `Sorting.sortLine_withPassword`: such a line is sorted alike;
* `Query.SameButPassword.runsAlike`, `Query.SameButPassword.request`: it asks for the same.
-/

namespace TerseQuery

/-! ## Tokens -/

namespace Token

/-- Whether a token is an option that gives a password. -/
def givesPassword (token : String) : Bool :=
  isOption token &&
    match parseOption token with
    | (key, .text _) => key == Credential.optionKey
    | (_, .flag) => false

/-- A token with another password, if it gives one. -/
def withPassword (secret token : String) : String :=
  if givesPassword token then sigil token ++ (Credential.optionKey ++ "=" ++ secret) else token

theorem startsWord_password (secret : String) : StartsWord (Credential.optionKey ++ "=" ++ secret) := by
  have hkey : StartsWord Credential.optionKey := ⟨'p', ['w'], rfl, by decide⟩
  exact (hkey.append "=").append secret

section
variable {token : String} (h : givesPassword token = true) (secret : String)
include h

theorem isDashes_of_givesPassword : IsDashes (sigil token) :=
  isOption_iff.mp (Bool.and_eq_true_iff.mp h).1

theorem withPassword_eq : withPassword secret token = sigil token ++ (Credential.optionKey ++ "=" ++ secret) :=
  if_pos h

theorem undashed_withPassword :
    undashed (withPassword secret token) = Credential.optionKey.toList ++ '=' :: secret.toList := by
  rw [withPassword_eq h, undashed_append (isDashes_of_givesPassword h).2 (.inr (startsWord_password secret)),
    String.toList_append, String.toList_append, List.append_assoc]
  rfl

theorem parseOption_withPassword :
    parseOption (withPassword secret token) = (Credential.optionKey, .text secret) := by
  rw [parseOption_text (by decide) (undashed_withPassword h secret), String.ofList_toList, String.ofList_toList]

theorem isOption_withPassword_of_gives : isOption (withPassword secret token) = true := by
  obtain ⟨hsome, hdashes⟩ := isDashes_of_givesPassword h
  have hdash : ∀ c ∈ (sigil token).toList, Text.isWordChar c = false := by
    intro c hc
    rw [hdashes c hc]
    decide
  rw [isOption_iff, withPassword_eq h, sigil_append hdash (startsWord_password secret)]
  exact ⟨hsome, hdashes⟩

theorem isStrictOption_withPassword_of_gives : isStrictOption (withPassword secret token) = true := by
  have hkey : IsWordKey Credential.optionKey := ⟨by decide, List.all_iff_forall_prop.mp (by decide)⟩
  obtain ⟨hsome, hdashes⟩ := isDashes_of_givesPassword h
  rw [isStrictOption_iff, parseOption_withPassword h, withPassword_eq h, String.toList_append]
  refine ⟨?_, hkey⟩
  cases hcs : (sigil token).toList with
  | nil => exact absurd (String.toList_eq_nil_iff.mp hcs) hsome
  | cons c rest => rw [hdashes c (hcs ▸ List.mem_cons_self)]; rfl

end

theorem withPassword_of_not_gives {token : String} (h : givesPassword token = false) (secret : String) :
    withPassword secret token = token :=
  if_neg (by simp [h])

@[simp] theorem isOption_withPassword (secret token : String) :
    isOption (withPassword secret token) = isOption token := by
  cases hgives : givesPassword token with
  | false => rw [withPassword_of_not_gives hgives]
  | true =>
    rw [isOption_withPassword_of_gives hgives]
    exact (Bool.and_eq_true_iff.mp hgives).1.symm

theorem isStrictOption_withPassword {token : String} (h : isStrictOption token = true) (secret : String) :
    isStrictOption (withPassword secret token) = true := by
  cases hgives : givesPassword token with
  | false => rw [withPassword_of_not_gives hgives, h]
  | true => exact isStrictOption_withPassword_of_gives hgives secret

/-- With two passwords in its place, a token is read as one option, or as two that differ in the password. -/
theorem sameBut_parseOption_withPassword (x y token : String) :
    SameBut (Credential.optionKey, .text x) (Credential.optionKey, .text y)
      (parseOption (withPassword x token)) (parseOption (withPassword y token)) := by
  cases hgives : givesPassword token with
  | false =>
    rw [withPassword_of_not_gives hgives, withPassword_of_not_gives hgives]
    exact .same _
  | true =>
    rw [parseOption_withPassword hgives, parseOption_withPassword hgives]
    exact .named

end Token

/-! ## Lines -/

namespace Sorting

/-- The tokens after a command with another password in their options. Those of literal SQL are no options. -/
def restWithPassword (literal : Bool) (secret : String) (rest : List String) : List String :=
  if literal then
    (rest.takeWhile Token.isStrictOption).map (Token.withPassword secret) ++ rest.dropWhile Token.isStrictOption
  else rest.map (Token.withPassword secret)

/-- A line with another password in its options. -/
def withPassword (leader secret : String) (tokens : List String) : List String :=
  ((splitCommand leader tokens).1.map (leader ++ ·)).toList ++
    restWithPassword (isLiteralLine leader tokens) secret (splitCommand leader tokens).2

section
variable (secret : String) (rest : List String)

/-- Tokens that are no options stay. -/
theorem filter_not_isOption_map :
    (rest.map (Token.withPassword secret)).filter (!Token.isOption ·) = rest.filter (!Token.isOption ·) := by
  induction rest with
  | nil => rfl
  | cons token rest ih =>
    rw [List.map_cons, List.filter_cons, List.filter_cons, Token.isOption_withPassword, ih]
    cases hoption : Token.isOption token with
    | true => rfl
    | false =>
      have hgives : Token.givesPassword token = false := by rw [Token.givesPassword, hoption, Bool.false_and]
      rw [Token.withPassword_of_not_gives hgives]

theorem filter_isOption_map :
    (rest.map (Token.withPassword secret)).filter Token.isOption =
      (rest.filter Token.isOption).map (Token.withPassword secret) := by
  have hsame : Token.isOption ∘ Token.withPassword secret = Token.isOption := by
    funext token
    rw [Function.comp_apply, Token.isOption_withPassword]
  rw [List.filter_map, hsame]

theorem filter_not_isOption_restWithPassword (literal : Bool) :
    (restWithPassword literal secret rest).filter (!Token.isOption ·) = rest.filter (!Token.isOption ·) := by
  cases literal with
  | false => exact filter_not_isOption_map secret rest
  | true =>
    rw [restWithPassword, if_pos rfl, List.filter_append, filter_not_isOption_map, ← List.filter_append,
      List.takeWhile_append_dropWhile]

theorem isStrictOption_of_mem_map {token : String}
    (h : token ∈ (rest.takeWhile Token.isStrictOption).map (Token.withPassword secret)) :
    Token.isStrictOption token = true := by
  obtain ⟨other, hother, rfl⟩ := List.mem_map.mp h
  exact Token.isStrictOption_withPassword (List.mem_takeWhile_imp hother) secret

theorem takeWhile_restWithPassword :
    (restWithPassword true secret rest).takeWhile Token.isStrictOption =
      (rest.takeWhile Token.isStrictOption).map (Token.withPassword secret) := by
  have hsql : (rest.dropWhile Token.isStrictOption).takeWhile Token.isStrictOption = [] := by
    cases hdrop : rest.dropWhile Token.isStrictOption with
    | nil => rfl
    | cons first others =>
      have hfirst := List.head_dropWhile_not (p := Token.isStrictOption) (l := rest) (by simp [hdrop])
      rw [List.takeWhile_cons_of_neg (by simpa [hdrop] using hfirst)]
  rw [restWithPassword, if_pos rfl,
    List.takeWhile_append_of_pos fun token => isStrictOption_of_mem_map secret rest, hsql, List.append_nil]

theorem dropWhile_restWithPassword :
    (restWithPassword true secret rest).dropWhile Token.isStrictOption = rest.dropWhile Token.isStrictOption := by
  rw [restWithPassword, if_pos rfl,
    List.dropWhile_append_of_pos fun token => isStrictOption_of_mem_map secret rest, List.dropWhile_idempotent]

end

section
variable {leader : String} (hleader : leader.toList.head? ≠ some '-') (secret : String) (tokens : List String)
include hleader

/-- An option is no command, whatever password it gives. -/
theorem strip?_withPassword {token : String} (hempty : leader ≠ "") (h : Text.strip? token leader = none) :
    Text.strip? (Token.withPassword secret token) leader = none := by
  cases hgives : Token.givesPassword token with
  | false => rw [Token.withPassword_of_not_gives hgives, h]
  | true =>
    refine Text.strip?_eq_none fun hprefix => ?_
    obtain ⟨hsome, hdashes⟩ := Token.isDashes_of_givesPassword hgives
    rw [Token.withPassword_eq hgives, String.toList_append] at hprefix
    cases hsigil : (Token.sigil token).toList with
    | nil => exact hsome (String.toList_eq_nil_iff.mp hsigil)
    | cons dash dashes =>
      cases hchars : leader.toList with
      | nil => exact hempty (String.toList_eq_nil_iff.mp hchars)
      | cons c chars =>
        rw [hsigil, hchars] at hprefix
        obtain ⟨rfl, -⟩ := List.cons_prefix_cons.mp hprefix
        refine hleader ?_
        rw [hchars, List.head?_cons, hdashes c (hsigil ▸ List.mem_cons_self)]

theorem splitCommand_withPassword :
    splitCommand leader (withPassword leader secret tokens) =
      ((splitCommand leader tokens).1,
        restWithPassword (isLiteralLine leader tokens) secret (splitCommand leader tokens).2) := by
  have hwhole := append_of_splitCommand leader tokens
  rw [withPassword]
  rcases hsplit : splitCommand leader tokens with ⟨_ | name, rest⟩
  · have hliteral : isLiteralLine leader tokens = false := by
      rw [isLiteralLine, hsplit]
      rfl
    rw [hsplit] at hwhole
    obtain rfl : tokens = rest := hwhole
    rw [hliteral]
    change splitCommand leader (tokens.map (Token.withPassword secret)) =
      (none, tokens.map (Token.withPassword secret))
    cases tokens with
    | nil => rfl
    | cons first others =>
      by_cases hempty : leader = ""
      · simp [splitCommand, hempty]
      · have hfirst : Text.strip? first leader = none := by
          rw [splitCommand] at hsplit
          simp only [hempty, ↓reduceIte] at hsplit
          cases hstrip : Text.strip? first leader with
          | none => rfl
          | some name => simp [hstrip] at hsplit
        simp [splitCommand, hempty, strip?_withPassword hleader secret hempty hfirst]
  · exact splitCommand_leader (leader_ne_empty (by rw [hsplit])) _ _

theorem isLiteralLine_withPassword :
    isLiteralLine leader (withPassword leader secret tokens) = isLiteralLine leader tokens := by
  rw [isLiteralLine, isLiteralLine, splitCommand_withPassword hleader]

theorem lineOptions_withPassword :
    lineOptions leader (withPassword leader secret tokens) =
      (lineOptions leader tokens).map (Token.withPassword secret) := by
  rw [lineOptions, lineOptions, isLiteralLine_withPassword hleader, splitCommand_withPassword hleader]
  cases isLiteralLine leader tokens with
  | false => exact filter_isOption_map secret _
  | true => exact takeWhile_restWithPassword secret _

/-- With another password, a line is sorted into the same query but for its options. -/
theorem sortLine_withPassword (activeTable : Option String) (registry : OptionRegistry) :
    (sortLine leader activeTable registry (withPassword leader secret tokens)).1 =
      { (sortLine leader activeTable registry tokens).1 with
        options := (setTokens registry ((lineOptions leader tokens).map (Token.withPassword secret))).effective } := by
  have hsplit := splitCommand_withPassword hleader secret tokens
  have hoptions := lineOptions_withPassword hleader secret tokens
  cases hliteral : isLiteralLine leader tokens with
  | false =>
    have hsame := isLiteralLine_withPassword hleader secret tokens
    have hwords := filter_not_isOption_restWithPassword secret (splitCommand leader tokens).2 false
    rw [lineOptions, hsame, hsplit, hliteral] at hoptions
    simp only [Bool.false_eq_true, ↓reduceIte] at hoptions
    rw [hliteral] at hsplit hsame
    rw [sortLine_eq activeTable registry hsame, sortLine_eq activeTable registry hliteral, hsplit]
    simp only [placed, wordTokens, tableToken?, hwords, hoptions]
  | true =>
    have hsql := dropWhile_restWithPassword secret (splitCommand leader tokens).2
    have hbefore := takeWhile_restWithPassword secret (splitCommand leader tokens).2
    have hsame := isLiteralLine_withPassword hleader secret tokens
    have hline : lineOptions leader tokens = (splitCommand leader tokens).2.takeWhile Token.isStrictOption := by
      rw [lineOptions, hliteral, if_pos rfl]
    rw [hliteral] at hsplit hsame
    rw [sortLine_eq_placedLiteral activeTable registry hsame,
      sortLine_eq_placedLiteral activeTable registry hliteral, hsplit]
    simp only [placedLiteral, hsql, hbefore, hline]

/-- Arguments of commands are no options. -/
theorem commandArguments_withPassword :
    commandArguments (withPassword leader secret tokens) = commandArguments tokens := by
  have hwhole := append_of_splitCommand leader tokens
  have hline := append_of_splitCommand leader (withPassword leader secret tokens)
  rw [splitCommand_withPassword hleader] at hline
  rcases hsplit : splitCommand leader tokens with ⟨_ | name, rest⟩
  · have hliteral : isLiteralLine leader tokens = false := by
      rw [isLiteralLine, hsplit]
      rfl
    rw [hsplit] at hwhole hline
    obtain rfl : tokens = rest := hwhole
    rw [hliteral] at hline
    have hmapped : withPassword leader secret tokens = tokens.map (Token.withPassword secret) := hline
    rw [commandArguments, hmapped, ← List.map_drop]
    exact filter_not_isOption_map secret (tokens.drop 1)
  · rw [hsplit] at hwhole hline
    rw [commandArguments, commandArguments, hline, hwhole]
    exact filter_not_isOption_restWithPassword secret rest _

end

end Sorting

/-! ## Queries -/

/-- Queries that are the same but for the password in their options. -/
structure Query.SameButPassword (x y : String) (q other : Query) : Prop where
  eq : other = { q with options := other.options }
  options : OptionMap.SameBut Credential.optionKey (.text x) (.text y) q.options other.options

/-- A line with two passwords in its place is sorted into queries that differ in the password. -/
theorem Sorting.sameButPassword_sortLine {leader : String} (hleader : leader.toList.head? ≠ some '-') (x y : String)
    (activeTable : Option String) (registry : OptionRegistry) (tokens : List String) :
    (sortLine leader activeTable registry (withPassword leader x tokens)).1.SameButPassword x y
        (sortLine leader activeTable registry (withPassword leader y tokens)).1 ∧
      OptionRegistry.SameBut Credential.optionKey (.text x) (.text y)
        (sortLine leader activeTable registry (withPassword leader x tokens)).2
        (sortLine leader activeTable registry (withPassword leader y tokens)).2 := by
  have hregistry : OptionRegistry.SameBut Credential.optionKey (.text x) (.text y)
      (setTokens registry ((lineOptions leader tokens).map (Token.withPassword x)))
      (setTokens registry ((lineOptions leader tokens).map (Token.withPassword y))) :=
    .setAll (fun token _ => Token.sameBut_parseOption_withPassword x y token) (.refl registry)
  rw [registry_sortLine, registry_sortLine, lineOptions_withPassword hleader, lineOptions_withPassword hleader,
    sortLine_withPassword hleader, sortLine_withPassword hleader]
  exact ⟨⟨rfl, hregistry.effective⟩, hregistry⟩

namespace Query.SameButPassword

variable {x y : String} {q other : Query}

section
variable (h : q.SameButPassword x y other)
include h

theorem hasOption {key : String} (hne : key ≠ Credential.optionKey) : other.hasOption key = q.hasOption key := by
  rw [Query.hasOption, Query.hasOption, Dict.contains, Dict.contains, h.options.get?_of_ne hne]

theorem optionText? {key : String} (hne : key ≠ Credential.optionKey) :
    other.optionText? key = q.optionText? key := by
  rw [Query.optionText?, Query.optionText?, OptionMap.text?, OptionMap.text?, h.options.get?_of_ne hne]

theorem flagIndicators : other.flagIndicators = q.flagIndicators := by
  have hkeys : ∀ flag ∈ kindFlags, flag.1 ≠ Credential.optionKey := by decide
  have hflags : kindFlags.filter (fun flag => other.hasOption flag.1) =
      kindFlags.filter (fun flag => q.hasOption flag.1) :=
    List.filter_congr fun flag hflag => h.hasOption (hkeys flag hflag)
  rw [Query.flagIndicators, Query.flagIndicators, hflags]

theorem deduceKind : other.deduceKind = q.deduceKind := by
  have hexplicit : other.explicitIndicator = q.explicitIndicator := by
    rw [explicitIndicator, explicitIndicator, h.flagIndicators]
    rw [h.eq]
    rfl
  rw [Query.deduceKind, Query.deduceKind, hexplicit, h.eq]
  rfl

theorem statementOn (kind : QueryKind) (table : String) : other.statementOn kind table = q.statementOn kind table := by
  have hconnective : other.connective = q.connective := by
    rw [connective, connective, h.hasOption (by decide)]
  have hlimit : other.limit = q.limit := by
    rw [limit, limit, h.optionText? (by decide)]
  have hcondition : other.condition? = q.condition? := by
    funext marker word
    rw [condition?, condition?, h.hasOption (by decide)]
  have hpair : other.insertPair = q.insertPair := by
    funext word
    rw [insertPair, insertPair, insertsByName, insertsByName, h.hasOption (by decide), h.eq]
    rfl
  have hwords : other.plainWords = q.plainWords := by
    rw [h.eq]
    rfl
  have hbucket : other.bucket = q.bucket := by
    rw [h.eq]
    rfl
  cases kind with
  | select =>
    simp only [Query.statementOn, selection, rowFilter, columnNames, hwords, hconnective, hlimit, hcondition, hbucket]
  | insert => simp only [Query.statementOn, insertion, refuseSelection, hwords, hpair, hbucket]
  | update =>
    simp only [Query.statementOn, updating, refuseSelection, rowFilter, hwords, hconnective, hcondition, hbucket]
  | delete =>
    simp only [Query.statementOn, deletion, refuseSelection, rowFilter, hwords, hconnective, hcondition, hbucket]
  | undetermined => rfl

/-- No statement and no refusal of one depends on a password. -/
theorem synthesize : other.synthesize = q.synthesize := by
  have hstatement : other.statement = q.statement := by
    funext kind
    have htable : other.tableName = q.tableName := by
      rw [h.eq]
      rfl
    have hforeign : other.refuseForeign = q.refuseForeign := by
      rw [h.eq]
      rfl
    rw [statement_eq, statement_eq, htable, hforeign]
    simp only [h.statementOn]
  have hliteral : other.literal = q.literal := by rw [h.eq]
  have hkind : other.kind = q.kind := by rw [h.eq]
  rw [Query.synthesize, Query.synthesize, hliteral, hkind, h.deduceKind, hstatement]

theorem displayMode? : other.options.displayMode? = q.options.displayMode? := by
  have hkeys : ∀ key ∈ OptionGroup.format.keys, key ≠ Credential.optionKey := by decide
  have hactive : other.options.active? .format = q.options.active? .format :=
    List.find?_congr fun key hkey => h.hasOption (hkeys key hkey)
  rw [OptionMap.displayMode?, OptionMap.displayMode?, hactive]

theorem runsAlike : q.RunsAlike other where
  synthesize := h.synthesize
  shows := h.hasOption (by decide)
  runs := by rw [runs, runs, shows, shows, h.hasOption (by decide), h.hasOption (by decide)]
  displayMode := h.displayMode?
  anchors settings := by
    rw [h.eq]
    rfl

theorem withKind (kind : QueryKind) :
    { q with kind := some kind }.SameButPassword x y { other with kind := some kind } := by
  refine ⟨?_, h.options⟩
  rw [h.eq]

/-- The same is asked for: a command, a query, or what is refused. -/
theorem request {tokens tokens' : List String} (harguments : commandArguments tokens' = commandArguments tokens) :
    SessionM.SameOutcome Request.RunsAlike (q.request tokens) (other.request tokens') := by
  have hcommand : other.foldedCommand? = q.foldedCommand? := by
    rw [h.eq]
    rfl
  have hline : other.isQueryLine = q.isQueryLine := by
    rw [h.eq]
    rfl
  have hliteral : other.literal = q.literal := by rw [h.eq]
  have hquery : SessionM.SameOutcome Request.RunsAlike (q.withKind.map .query) (other.withKind.map .query) := by
    rw [Query.withKind, Query.withKind, h.deduceKind]
    cases q.deduceKind with
    | error failure => exact .error failure
    | ok kind => exact .ok (.query (h.withKind kind).runsAlike)
  rw [Query.request, Query.request, hcommand, hline, hliteral, harguments]
  split
  · split
    · exact hquery
    · split
      · split
        · exact .ok (.query h.runsAlike)
        · exact .error _
      · exact .refl Request.RunsAlike.refl _
  · exact hquery

/-- The password itself is read from the options, and it is one that is supplied. -/
theorem credential? (hx : x ≠ "" ∧ x ≠ Credential.emptySign) (hy : y ≠ "" ∧ y ≠ Credential.emptySign) :
    Option.Rel (SameBut (.supplied x) (.supplied y)) q.credential? other.credential? := by
  have hsame : ∀ credential : Option Credential,
      Option.Rel (SameBut (.supplied x) (.supplied y)) credential credential := by
    intro credential
    cases credential with
    | none => exact .none
    | some credential => exact .some (.same credential)
  have hvalue := h.options.get?_key
  rw [Query.credential?, Query.credential?, Query.optionText?, Query.optionText?, OptionMap.text?, OptionMap.text?]
  generalize q.options.get? Credential.optionKey = value, other.options.get? Credential.optionKey = value' at hvalue
  cases hvalue with
  | same => exact hsame _
  | named =>
    simp only [Option.bind_some, OptionValue.text?, hx.1, hx.2, hy.1, hy.2, ↓reduceIte]
    exact .some .named

end

end Query.SameButPassword

end TerseQuery
