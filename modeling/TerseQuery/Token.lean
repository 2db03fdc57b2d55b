import TerseQuery.Text.WordChar
import TerseQuery.Options.Basic

/-!
# Tokens

A token is a sigil, the characters before its first word character, and a word, all the rest. A word may
carry an operator: a run of characters other than word characters that ends with `=` and is no comparison.

* `sigil_append_word`: nothing is lost when a token is split.
-/
namespace TerseQuery.Token

open Text

/-- The characters before the first word character. -/
def sigil (token : String) : String :=
  String.ofList (token.toList.takeWhile fun c => !isWordChar c)

/-- A token from its first word character on. -/
def word (token : String) : String :=
  String.ofList (token.toList.dropWhile fun c => !isWordChar c)

/-- Whether a token sets an option: its sigil is a run of dashes. -/
def isOption (token : String) : Bool :=
  let cs := (sigil token).toList
  !cs.isEmpty && cs.all (· == '-')

/-- Whether a token before literal SQL sets an option: dashes, then a key of word characters only. -/
def isStrictOption (token : String) : Bool :=
  let body := token.toList.dropWhile (· == '-')
  let key := body.takeWhile (· != '=')
  body.length != token.length && !key.isEmpty && key.all isWordChar

/-- The runs that end with `=` and compare, and so are no operators. -/
def comparisons : List (List Char) :=
  [['<', '='], ['>', '='], ['!', '='], ['=', '=']]

/-- The first operator of a text, `run` being the characters other than word characters just before it. -/
def operatorFrom (run : List Char) : List Char → Option (List Char)
  | [] => none
  | c :: rest =>
    if isWordChar c then operatorFrom [] rest
    else if c = '=' ∧ run ≠ [] ∧ (run ++ ['=']) ∉ comparisons then some (run ++ ['='])
    else operatorFrom (run ++ [c]) rest

/-- The first operator in a text. -/
def operator? (text : String) : Option String :=
  (operatorFrom [] text.toList).map String.ofList

theorem sigil_append_word (token : String) : sigil token ++ word token = token := by
  rw [← String.toList_inj]
  simp [sigil, word, List.takeWhile_append_dropWhile]

end TerseQuery.Token
