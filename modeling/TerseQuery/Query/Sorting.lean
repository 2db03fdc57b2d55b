import TerseQuery.Query.Basic
import TerseQuery.Token

/-!
# Sorting the tokens of a line

Each token goes to one place. The first is the command if it starts with the leader. Option tokens go to the
transient options. The first token without sigil and operator names the main table of a query that has
none. All others go to the bucket of their sigil. The tokens after the command for literal SQL are options
as long as they look strictly like it, and SQL from then on.

* `sortLine`: the sorted line and the registry afterwards.
* `Query.toTokens`: tokens that stand for a sorted line.
-/
namespace TerseQuery

/-- The command whose tokens are literal SQL. -/
def literalVerb : String := "sq"

/-- The command that a line starts with, and the other tokens. A leader without characters leads nothing. -/
def splitCommand (leader : String) (tokens : List String) : Option String × List String :=
  match tokens with
  | [] => (none, [])
  | first :: rest =>
    if leader = "" then (none, tokens)
    else
      match Text.strip? first leader with
      | some name => (some name, rest)
      | none => (none, tokens)

/-- A query being sorted and the registry that takes its options. -/
structure Sorting where
  query : Query
  registry : OptionRegistry

namespace Sorting

/-- Whether a token names the main table: it has a word, no sigil and no operator, and a query line still
lacks its table. -/
def namesTable (q : Query) (token : String) : Bool :=
  (Token.operator? (Token.word token)).isNone && q.isQueryLine && Token.sigil token == "" &&
    Token.word token != "" && q.table.isNone

/-- A query with one more word in the bucket of its sigil, and the operator in the word recorded. -/
def addWord (q : Query) (sigil word : String) : Query :=
  let before := q.bucket sigil
  { q with
    buckets := q.buckets.insert sigil (before ++ [word])
    operators :=
      match Token.operator? word with
      | some symbol => q.operators ++ [⟨symbol, sigil, before.length⟩]
      | none => q.operators }

/-- One more token of a line. -/
def addToken (s : Sorting) (token : String) : Sorting :=
  if Token.isOption token then { s with registry := s.registry.setToken .transient token }
  else if namesTable s.query token then
    { s with query := { s.query with table := some ⟨Token.word token, false⟩ } }
  else { s with query := addWord s.query (Token.sigil token) (Token.word token) }

/-- The tokens of literal SQL: options first, then SQL, its tokens joined by spaces. -/
def addLiteral (s : Sorting) (tokens : List String) : Sorting :=
  let options := tokens.takeWhile Token.isStrictOption
  let sql := tokens.dropWhile Token.isStrictOption
  { query :=
      { s.query with literal := if sql.isEmpty then none else some (String.intercalate " " sql) }
    registry := options.foldl (fun r token => r.setToken .transient token) s.registry }

end Sorting

/-- The tokens of a line sorted. The leader marks a command, and the active table is the main table of each
line. The options of the query are those in effect when all tokens are read. -/
def sortLine (leader : String) (activeTable : Option String) (registry : OptionRegistry)
    (tokens : List String) : Query × OptionRegistry :=
  let (command, rest) := splitCommand leader tokens
  let start : Sorting :=
    ⟨{ Query.empty with command, table := activeTable.map (⟨·, true⟩) }, registry⟩
  let sorted :=
    if command.any (Text.equalFolded literalVerb ·) then start.addLiteral rest
    else rest.foldl Sorting.addToken start
  ({ sorted.query with options := sorted.registry.effective }, sorted.registry)

namespace Query

/-- The token that sets an option. -/
def optionToken (option : String × OptionValue) : String :=
  match option.2 with
  | .flag => "-" ++ option.1
  | .text value => "-" ++ option.1 ++ "=" ++ value

/-- Tokens that stand for a sorted line: the command, the options, then literal SQL word by word, or the
table, unless it is the configured one, and the words bucket by bucket. -/
def toTokens (q : Query) (leader : String) : List String :=
  let command := (q.command.map (leader ++ ·)).toList
  let options := q.options.entries.map optionToken
  match q.literal with
  | some sql => command ++ options ++ Text.words sql
  | none =>
    let table := (q.table.filter fun table => !table.configured).map TableRef.name
    command ++ options ++ table.toList ++
      q.buckets.entries.flatMap fun bucket => bucket.2.map (bucket.1 ++ ·)

end Query

end TerseQuery
