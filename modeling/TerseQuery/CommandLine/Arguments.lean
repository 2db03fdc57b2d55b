import TerseQuery.Display
import TerseQuery.Text.Numeral

/-!
# Arguments

The arguments of the program are options and flags, then the tokens of a line. The first argument that is
neither option nor flag begins the line, and so does what follows `--`; from there on everything is a token.
An argument of no known name is a token even with dashes before it, and may be the value of an option
before it. Each option and flag is given once.
-/
namespace TerseQuery.CommandLine

/-- The options that take a value. -/
inductive ValueOption where
  | database
  | table
  | format
  | width
  | leader
  | settings
  deriving DecidableEq, Repr

namespace ValueOption

def all : List ValueOption := [database, table, format, width, leader, settings]

def name : ValueOption → String
  | database => "db"
  | table => "table"
  | format => "format"
  | width => "width"
  | leader => "leader"
  | settings => "settings"

end ValueOption

inductive Flag where
  /-- Shows the sorted line instead of running it. -/
  | explain
  | verbose
  | version
  | help
  deriving DecidableEq, Repr

namespace Flag

def all : List Flag := [explain, verbose, version, help]

def name : Flag → String
  | explain => "explain"
  | verbose => "verbose"
  | version => "version"
  | help => "help"

/-- The flag of a single letter. -/
def ofLetter? : Char → Option Flag
  | 'v' => some verbose
  | 'V' => some version
  | 'h' => some help
  | _ => none

end Flag

/-- What an argument before the line is. -/
inductive Argument where
  | flags (given : List Flag)
  | valued (which : ValueOption) (value : Option String)
  /-- A flag with a value. -/
  | malformed
  | token
  deriving DecidableEq, Repr

namespace Argument

/-- An argument with two dashes, which are dropped. -/
def ofLong (body : String) : Argument :=
  let (name, value) := match Text.cutAt? body "=" with
    | some (name, value) => (name, some value)
    | none => (body, none)
  match ValueOption.all.find? (·.name == name), Flag.all.find? (·.name == name) with
  | some which, _ => valued which value
  | none, some flag => if value.isSome then malformed else flags [flag]
  | none, none => token

/-- An argument with one dash, which is dropped: letters that are all flags, or a token. -/
def ofShort (letters : List Char) : Argument :=
  match letters.mapM Flag.ofLetter? with
  | some given => if given.isEmpty then token else flags given
  | none => token

def ofText (text : String) : Argument :=
  match text.toList with
  | '-' :: '-' :: body => ofLong (String.ofList body)
  | '-' :: letters => ofShort letters
  | _ => token

end Argument

/-- What the arguments ask for. -/
structure Arguments where
  tokens : List String
  database : Option String
  table : Option String
  format : Option DisplayMode
  width : Option Nat
  leader : Option String
  /-- The file of settings. -/
  settings : Option String
  explain : Bool
  verbose : Bool
  deriving DecidableEq, Repr

namespace Arguments

/-- Nothing is asked for. -/
def initial : Arguments := ⟨[], none, none, none, none, none, none, false, false⟩

/-- A value put where there is none yet. -/
def fill? {α : Type} (place : Option α) (value : Option α) : Option (Option α) :=
  match place with
  | none => value.map some
  | some _ => none

/-- The arguments with an option, unless it is given already or the value makes no sense. -/
def set? (a : Arguments) (which : ValueOption) (value : String) : Option Arguments :=
  match which with
  | .database => (fill? a.database value).map fun database => { a with database }
  | .table => (fill? a.table value).map fun table => { a with table }
  | .format => (fill? a.format (DisplayMode.ofName value).toOption).map fun format => { a with format }
  | .width => (fill? a.width (Text.natural? value)).map fun width => { a with width }
  | .leader => (fill? a.leader value).map fun leader => { a with leader }
  | .settings =>
    (fill? a.settings (if value = "" then none else some value)).map fun settings => { a with settings }

end Arguments

/-- How the arguments are read. -/
inductive Reading where
  | run (arguments : Arguments)
  | version
  | help
  | refused
  deriving DecidableEq, Repr

/-- Flags read one after the other: the arguments with them, or what ends the reading. -/
def readFlags (a : Arguments) : List Flag → Except Reading Arguments
  | [] => .ok a
  | .explain :: rest => if a.explain then .error .refused else readFlags { a with explain := true } rest
  | .verbose :: rest => if a.verbose then .error .refused else readFlags { a with verbose := true } rest
  | .version :: _ => .error .version
  | .help :: _ => .error .help

/-- Whether an argument can be the value of an option before it. -/
def isValue (text : String) : Bool :=
  text != "--" && Argument.ofText text == .token

/-- Reads arguments, some being read already. -/
def readFrom (a : Arguments) : List String → Reading
  | [] => .run a
  | text :: rest =>
    if text = "--" then .run { a with tokens := rest }
    else
      match Argument.ofText text with
      | .token => .run { a with tokens := text :: rest }
      | .malformed => .refused
      | .flags given =>
        match readFlags a given with
        | .ok a => readFrom a rest
        | .error ending => ending
      | .valued which (some value) =>
        match a.set? which value with
        | some a => readFrom a rest
        | none => .refused
      | .valued which none =>
        match rest with
        | [] => .refused
        | value :: rest =>
          if isValue value then
            match a.set? which value with
            | some a => readFrom a rest
            | none => .refused
          else .refused

/-- Reads all arguments. -/
def read (arguments : List String) : Reading :=
  readFrom .initial arguments

end TerseQuery.CommandLine
