import TerseQuery.Display
import TerseQuery.Settings.Connection

/-!
# Settings

What lasts from one session to the next.
-/
namespace TerseQuery

/-- The text that marks a command unless another is chosen. -/
def defaultLeader : String := "\\"

/-- The settings of a session. -/
structure Settings where
  /-- The active database. -/
  database : Option String
  /-- The active table. -/
  table : Option String
  format : DisplayMode
  runMode : RunMode
  /-- The text that marks a command. -/
  leader : String
  /-- The column that each chunk of a table starts with. -/
  anchorColumns : Dict String
  connection : Connection
  aliases : Dict String
  /-- Short forms of the names of database objects. -/
  abbreviations : Dict String
  /-- Texts that the user named. -/
  userVariables : Dict String
  deriving DecidableEq

/-- The settings where nothing is set. -/
def Settings.initial : Settings :=
  ⟨none, none, default, default, defaultLeader, .empty, default, .empty, .empty, .empty⟩

instance : Inhabited Settings := ⟨Settings.initial⟩

/-- The collections of named texts in the settings. -/
inductive Glossary where
  | userVariables
  | aliases
  | abbreviations
  deriving DecidableEq, Repr

namespace Glossary

/-- What messages call an entry. -/
def entryName : Glossary → String
  | userVariables => "Variable"
  | aliases => "Alias"
  | abbreviations => "Abbreviation"

end Glossary

namespace Settings

/-- The entries of a glossary. -/
def glossary (s : Settings) : Glossary → Dict String
  | .userVariables => s.userVariables
  | .aliases => s.aliases
  | .abbreviations => s.abbreviations

/-- The settings with the entries of a glossary changed. -/
def modifyGlossary (s : Settings) (which : Glossary) (change : Dict String → Dict String) : Settings :=
  match which with
  | .userVariables => { s with userVariables := change s.userVariables }
  | .aliases => { s with aliases := change s.aliases }
  | .abbreviations => { s with abbreviations := change s.abbreviations }

@[simp] theorem glossary_modifyGlossary (s : Settings) (which : Glossary)
    (change : Dict String → Dict String) :
    (s.modifyGlossary which change).glossary which = change (s.glossary which) := by
  cases which <;> rfl

end Settings

end TerseQuery
