import TerseQuery.Failure
import TerseQuery.Text.Cut

/-!
# Display modes

The four forms in which rows are shown.
-/
namespace TerseQuery

/-- How rows are shown. -/
inductive DisplayMode where
  /-- Cells apart by tabs. -/
  | tab
  /-- Columns of fixed width on one line, however long. -/
  | nowrap
  /-- Columns of fixed width in chunks that fit the terminal. -/
  | wrap
  /-- One line for each cell. -/
  | vertical
  deriving DecidableEq, Repr

/-- The columns of a terminal, if it has an end. -/
abbrev TerminalWidth := Option Nat

namespace DisplayMode

instance : Inhabited DisplayMode := ⟨.wrap⟩

/-- The name of a mode, which is also the key of the option that selects it. -/
def key : DisplayMode → String
  | .tab => "tab"
  | .nowrap => "nowrap"
  | .wrap => "wrap"
  | .vertical => "vertical"

/-- The mode of a key. -/
def ofKey? (key : String) : Option DisplayMode :=
  [tab, nowrap, wrap, vertical].find? fun mode => mode.key == key

/-- The mode of a name in any case. -/
def ofName (name : String) : Except Failure DisplayMode :=
  match ofKey? (Text.lower name) with
  | some mode => .ok mode
  | none => .error (.input (.unknownFormat name))

@[simp] theorem ofKey?_key (mode : DisplayMode) : ofKey? mode.key = some mode := by
  cases mode <;> rfl

end DisplayMode

/-- Whether queries are shown, run, or both. -/
inductive RunMode where
  | query
  | run
  | both
  deriving DecidableEq, Repr

namespace RunMode

instance : Inhabited RunMode := ⟨.run⟩

def name : RunMode → String
  | .query => "query"
  | .run => "run"
  | .both => "both"

def ofName? (name : String) : Option RunMode :=
  [query, run, both].find? fun mode => mode.name == name

/-- The options that stand for a mode: `q` shows, `r` runs. -/
def optionKeys : RunMode → List String
  | .query => ["q"]
  | .run => ["r"]
  | .both => ["q", "r"]

@[simp] theorem ofName?_name (mode : RunMode) : ofName? mode.name = some mode := by
  cases mode <;> rfl

end RunMode

end TerseQuery
