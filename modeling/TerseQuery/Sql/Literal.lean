import TerseQuery.Text.Cut
import TerseQuery.Text.Numeral
import TerseQuery.Text.WordChar

/-!
# Literals and identifiers

How a value of a token is written in SQL: `NULL`, a numeral as it stands, a quoted text as it stands, and any
other text in quotes.
-/
namespace TerseQuery.Sql

/-- Whether a text is a name: word characters and points, at least one. -/
def isIdentifier (s : String) : Bool :=
  let cs := s.toList
  !cs.isEmpty && cs.all fun c => Text.isWordChar c || c == '.'

/-- Whether a value is the missing value, in any case. -/
def isNull (value : String) : Bool :=
  Text.equalFolded value "null"

/-- Whether a text starts and ends with a quote, and these are two. -/
def isQuoted (value : String) : Bool :=
  let cs := value.toList
  2 ≤ cs.length && cs.head? == some '\'' && cs.getLast? == some '\''

/-- A text in quotes, each quote inside it written twice. -/
def quote (value : String) : String :=
  String.ofList ('\'' :: (value.toList.flatMap fun c => if c = '\'' then ['\'', '\''] else [c]) ++ ['\''])

/-- A value as a literal. -/
def literal (value : String) : String :=
  if isNull value then "NULL"
  else if Text.isNumeral value then value
  else if isQuoted value then value
  else quote value

end TerseQuery.Sql
