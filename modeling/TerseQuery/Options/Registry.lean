import TerseQuery.Options.Basic
import TerseQuery.Text.Blank

/-!
# The option registry

Persistent options last for a session, transient options for one line. The effective options are the
persistent ones with the transient ones put over them one after the other.
-/
namespace TerseQuery

/-- How long an option lasts. -/
inductive Scope where
  | persistent
  | transient
  deriving DecidableEq, Repr

/-- The options of a session. -/
structure OptionRegistry where
  persistent : OptionMap
  transient : OptionMap
  /-- Whether the persistent options were set up. -/
  seeded : Bool

namespace OptionRegistry

/-- The registry before anything is set. -/
def fresh : OptionRegistry := ⟨.empty, .empty, false⟩

instance : Inhabited OptionRegistry := ⟨fresh⟩

/-- The options of a scope. -/
def inScope (r : OptionRegistry) : Scope → OptionMap
  | .persistent => r.persistent
  | .transient => r.transient

/-- The registry with the options of a scope changed. -/
def modify (r : OptionRegistry) (scope : Scope) (change : OptionMap → OptionMap) : OptionRegistry :=
  match scope with
  | .persistent => { r with persistent := change r.persistent }
  | .transient => { r with transient := change r.transient }

def set (r : OptionRegistry) (key : String) (value : OptionValue) (scope : Scope) : OptionRegistry :=
  r.modify scope fun map => map.set key value

/-- The registry with one member of a group active. -/
def setExclusive (r : OptionRegistry) (group : OptionGroup) (key : String) (scope : Scope) :
    OptionRegistry :=
  r.modify scope fun map => (map.clearGroup group).insert key .flag

def unset (r : OptionRegistry) (key : String) (scope : Scope) : OptionRegistry :=
  r.modify scope fun map => map.erase key

def clearTransient (r : OptionRegistry) : OptionRegistry :=
  { r with transient := .empty }

/-- What an option token sets in a scope. -/
def setToken (r : OptionRegistry) (scope : Scope) (token : String) : OptionRegistry :=
  let option := parseOption token
  r.set option.1 option.2 scope

/-- The persistent options with the transient options over them. -/
def effective (r : OptionRegistry) : OptionMap :=
  r.transient.entries.foldl (fun map entry => map.put entry.1 entry.2) r.persistent

/-- The member of a group that is in effect. -/
def active? (r : OptionRegistry) (group : OptionGroup) : Option String :=
  r.effective.active? group

/-- The option tokens among the words of a text. -/
def seedTokens (text : String) : List String :=
  (Text.words text).filter fun token => token.toList.head? == some '-'

/-- Sets the persistent options up, once: the configured display mode and run mode, then the option
tokens of a text. -/
def seed (r : OptionRegistry) (format : DisplayMode) (runMode : RunMode) (extra : Option String) :
    Except Failure OptionRegistry :=
  if r.seeded then .error (.config .alreadySeeded)
  else
    let flags := (format.key :: runMode.optionKeys).foldl (fun r key => r.set key .flag .persistent)
      { r with seeded := true }
    .ok ((seedTokens (extra.getD "")).foldl (fun r token => r.setToken .persistent token) flags)

end OptionRegistry

end TerseQuery
