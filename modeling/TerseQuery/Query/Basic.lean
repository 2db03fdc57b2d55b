import TerseQuery.Options.Registry
import TerseQuery.Query.Kind

/-!
# Sorted lines

A line of tokens, sorted by what its tokens are: a command, options, the main table, words by sigil and the
operators in them, or literal SQL.
-/
namespace TerseQuery

/-- An operator inside a word, with the place of the word. -/
structure OperatorUse where
  symbol : String
  sigil : String
  index : Nat
  deriving DecidableEq, Repr

/-- The main table of a query. -/
structure TableRef where
  name : String
  /-- Whether the table is the active one of the settings and not a token of the line. -/
  configured : Bool
  deriving DecidableEq, Repr

/-- A sorted line. -/
structure Query where
  /-- The command, without the leader before it. -/
  command : Option String
  table : Option TableRef
  options : OptionMap
  /-- The words that share a sigil, in order. -/
  buckets : Dict (List String)
  operators : List OperatorUse
  literal : Option String
  kind : Option QueryKind
  deriving DecidableEq

namespace Query

/-- The query of a line without tokens. -/
def empty : Query := ⟨none, none, .empty, .empty, [], none, none⟩

instance : Inhabited Query := ⟨empty⟩

/-- The words with a sigil. -/
def bucket (q : Query) (sigil : String) : List String :=
  (q.buckets.get? sigil).getD []

/-- The operator recorded for a word. -/
def operatorAt? (q : Query) (sigil : String) (index : Nat) : Option OperatorUse :=
  q.operators.find? fun op => op.sigil = sigil ∧ op.index = index

def hasOption (q : Query) (key : String) : Bool :=
  q.options.contains key

/-- The text of an option that has one. -/
def optionText? (q : Query) (key : String) : Option String :=
  q.options.text? key

/-- The command in lower case. -/
def foldedCommand? (q : Query) : Option String :=
  q.command.map Text.lower

/-- Whether a command is given. -/
def isExplicit (q : Query) : Bool :=
  q.command.isSome

/-- Whether the line asks for a query: it has no command, or its command is the verb of a query. -/
def isQueryLine (q : Query) : Bool :=
  q.command.all fun name => (QueryKind.ofVerb? name).isSome

/-- The word that an operator was found in. -/
def wordOf? (q : Query) (op : OperatorUse) : Option String :=
  (q.bucket op.sigil)[op.index]?

end Query

/-- A password that is given for one line. -/
inductive Credential where
  | supplied (secret : String)
  /-- The empty password. -/
  | empty
  deriving DecidableEq, Repr

namespace Credential

/-- The option that carries a password. -/
def optionKey : String := "pw"

/-- The text that stands for the empty password. -/
def emptySign : String := "-"

def password : Credential → String
  | supplied secret => secret
  | empty => ""

end Credential

/-- The password that the options of a query carry. An option without text, or with an empty one, carries
none. -/
def Query.credential? (q : Query) : Option Credential :=
  match q.optionText? Credential.optionKey with
  | none => none
  | some text =>
    if text = "" then none
    else if text = Credential.emptySign then some .empty
    else some (.supplied text)

end TerseQuery
