import TerseQuery.Session.Basic

/-!
# Commands

The commands that are no queries, what their arguments mean, and what they do. A command whose arguments make
no sense does nothing. The exception is the command that sets options: it sets them one after the other up
to the first without a key.
-/
namespace TerseQuery

/-- How a command is written, and what it is for. -/
structure CommandForm where
  name : String
  arguments : String
  summary : String
  deriving DecidableEq, Repr

namespace CommandForm

def all : List CommandForm := [
  ⟨literalVerb, "<sql>", "Execute a literal SQL statement"⟩,
  ⟨"help", "", "Summary help for MINIQUERY commands"⟩,
  ⟨"db", "<name>", "Set the active database"⟩,
  ⟨"table", "[<name>]", "Set or show the active table"⟩,
  ⟨"clear", "", "Clear the active table"⟩,
  ⟨"format", "[<mode>]", "Set or show the result format"⟩,
  ⟨"set", "<key>[=<value>]", "Set a persistent option"⟩,
  ⟨"get", "[<key>]", "Inspect persistent options"⟩,
  ⟨"unset", "<key>", "Unset a persistent option"⟩,
  ⟨"setv", "<name>=<value>", "Set a variable"⟩,
  ⟨"getv", "<name>", "Inspect a variable"⟩,
  ⟨"unsetv", "<name>", "Unset a variable"⟩,
  ⟨"seta", "<alias>=<text>", "Set up an alias for a command"⟩,
  ⟨"geta", "<alias>", "Inspect an alias"⟩,
  ⟨"unseta", "<alias>", "Unset an alias"⟩,
  ⟨"setabb", "<abbr>=<full>", "Set up an abbreviation for object names"⟩,
  ⟨"getabb", "<abbr>", "Inspect an abbreviation"⟩,
  ⟨"unsetabb", "<abbr>", "Unset an abbreviation"⟩,
  ⟨"save", "[<file>]", "Save settings, aliases, abbreviations and variables"⟩]

/-- A name with its arguments. -/
def usage (form : CommandForm) : String :=
  form.name ++ " " ++ form.arguments

/-- The columns that a usage takes in the help. -/
def usageColumns : Nat := 26

/-- A line of the help. -/
def helpLine (leader : String) (form : CommandForm) : String :=
  let usage := Text.trimEnd (leader ++ form.usage).toList
  String.ofList usage ++ String.ofList (List.replicate (usageColumns - usage.length) ' ') ++ " " ++
    form.summary

/-- The refusal of a command that lacks its arguments. -/
def lacking (name : String) : Failure :=
  .input (.usage (((all.find? fun form => form.name = name).map usage).getD name))

end CommandForm

/-- A command with its arguments. -/
inductive Command where
  | help
  | showTable
  | setTable (name : String)
  | clearTable
  | setDatabase (name : String)
  | showFormat
  | setFormat (mode : DisplayMode)
  /-- Sets options one after the other, each written `key` or `key=value`. -/
  | setOptions (arguments : List String)
  | showOptions
  | showOption (key : String)
  | unsetOption (key : String)
  | define (glossary : Glossary) (name value : String)
  | lookUp (glossary : Glossary) (name : String)
  | forget (glossary : Glossary) (name : String)
  /-- Saves the settings in a file, or in the file of the working directory. -/
  | save (path : Option String)
  deriving DecidableEq, Repr

namespace Command

/-- A name and a value from arguments that are one text `name=value`. Blanks around the name are dropped; a
value may have any. -/
def definition? (arguments : List String) : Option (String × String) :=
  (Text.cutAt? (String.intercalate " " arguments) "=").bind fun (name, value) =>
    let name := String.ofList (Text.trim name.toList)
    if name = "" then none else some (name, value)

/-- The command of a name in lower case and some arguments. -/
def ofWords (name : String) (arguments : List String) : Except Failure Command :=
  match name with
  | "help" => .ok help
  | "table" => .ok (arguments.head?.elim showTable setTable)
  | "clear" => .ok clearTable
  | "db" => first.map setDatabase
  | "format" => arguments.head?.elim (.ok showFormat) fun text => (DisplayMode.ofName text).map setFormat
  | "set" => first.map fun _ => setOptions arguments
  | "get" => .ok (arguments.head?.elim showOptions fun argument => showOption (parseOption argument).1)
  | "unset" => first.map fun argument => unsetOption (parseOption argument).1
  | "setv" => defining .userVariables
  | "getv" => first.map (lookUp .userVariables)
  | "unsetv" => first.map (forget .userVariables)
  | "seta" => defining .aliases
  | "geta" => first.map (lookUp .aliases)
  | "unseta" => first.map (forget .aliases)
  | "setabb" => defining .abbreviations
  | "getabb" => first.map (lookUp .abbreviations)
  | "unsetabb" => first.map (forget .abbreviations)
  | "save" => .ok (save arguments.head?)
  | _ => .error (.input (.unknownCommand name))
where
  /-- The first argument, which has to be there. -/
  first : Except Failure String :=
    match arguments with
    | argument :: _ => .ok argument
    | [] => .error (CommandForm.lacking name)
  /-- A definition, which has to be there. -/
  defining (glossary : Glossary) : Except Failure Command :=
    match definition? arguments with
    | some (name, value) => .ok (define glossary name value)
    | none => .error (CommandForm.lacking name)

/-- The line that shows an option. -/
def optionLine (option : String × OptionValue) : String :=
  match option.2 with
  | .flag => option.1
  | .text value => option.1 ++ "=" ++ value

open SessionM

variable {ε : Type}

/-- Sets a persistent option written `key` or `key=value`. -/
def setOption (argument : String) : SessionM ε Unit := do
  let (key, value) := parseOption argument
  if key = "" then throw (.input (.unnamedOption argument))
  modifyRegistry fun r => r.set key value .persistent

/-- What a command does. -/
def run [Engine ε] : Command → SessionM ε Unit
  | help => do
    let leader := (← settings).leader
    writeLines (CommandForm.all.map (CommandForm.helpLine leader))
  | showTable => do
    writeLine ((← settings).table.getD "(none)")
  | setTable name =>
    modifySettings fun s => { s with table := some name }
  | clearTable =>
    modifySettings fun s => { s with table := none }
  | setDatabase name => do
    let previous := (← settings).database
    modifySettings fun s => { s with database := some name }
    try configure (← settings)
    catch failure =>
      modifySettings fun s => { s with database := previous }
      throw failure
  | showFormat => do
    writeLine (← settings).format.key
  | setFormat mode => do
    modifySettings fun s => { s with format := mode }
    modifyRegistry fun r => r.set mode.key .flag .persistent
  | setOptions arguments =>
    arguments.forM setOption
  | showOptions => do
    writeLines ((← session).registry.persistent.entries.map optionLine)
  | showOption key => do
    match (← session).registry.persistent.get? key with
    | some value => writeLine (optionLine (key, value))
    | none => writeLine s!"{key} is not set"
  | unsetOption key =>
    modifyRegistry fun r => r.unset key .persistent
  | define glossary name value =>
    modifySettings fun s => s.modifyGlossary glossary fun entries => entries.insert name value
  | lookUp glossary name => do
    match ((← settings).glossary glossary).get? name with
    | some value => writeLine value
    | none => throw (.input (.undefined glossary.entryName name))
  | forget glossary name =>
    modifySettings fun s => s.modifyGlossary glossary fun entries => entries.erase name
  | save path => do
    let stage ← get
    let path := path.getD stage.places.localFile
    let (disk, saved) := stage.session.settings.save stage.disk path
    modify fun stage => { stage with disk }
    ofExcept saved
    writeLine s!"Settings saved to {path}"

end Command

end TerseQuery
