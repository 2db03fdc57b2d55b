import TerseQuery.Dict
import TerseQuery.Display

/-!
# Options

An option is a key with or without a text. Some keys stand in groups of which one member at a time is
active; such an option is always a flag.

* `mem_keys_of_ofKey?`: the group of a key holds the key.
* `get?_put_of_member`: setting one member of a group removes the others.
-/
namespace TerseQuery

/-- What an option is set to. -/
inductive OptionValue where
  | flag
  | text (value : String)
  deriving DecidableEq, Repr

/-- The text of an option that has one. -/
def OptionValue.text? : OptionValue → Option String
  | .flag => none
  | .text value => some value

/-- Keys of which at most one is active. -/
inductive OptionGroup where
  /-- How conditions are joined. -/
  | connective
  /-- Whether a comparison with a missing value counts as a difference. -/
  | logic
  | run
  | format
  deriving DecidableEq, Repr

namespace OptionGroup

def all : List OptionGroup := [connective, logic, run, format]

def keys : OptionGroup → List String
  | connective => ["a", "o"]
  | logic => ["2v", "3v"]
  | run => ["e", "i"]
  | format => ["tab", "wrap", "nowrap", "vertical"]

def name : OptionGroup → String
  | connective => "connective"
  | logic => "logic"
  | run => "run"
  | format => "format"

/-- The group that a key belongs to. -/
def ofKey? (key : String) : Option OptionGroup :=
  all.find? fun group => group.keys.contains key

theorem mem_keys_of_ofKey? {key : String} {group : OptionGroup} (h : ofKey? key = some group) :
    key ∈ group.keys := by
  simpa using List.find?_some h

end OptionGroup

/-- The key and the value that an option token stands for: its dashes dropped, cut at the first `=`. -/
def parseOption (token : String) : String × OptionValue :=
  let body := String.ofList (token.toList.dropWhile (· == '-'))
  match Text.cutAt? body "=" with
  | some (key, value) => (key, .text value)
  | none => (body, .flag)

/-- The options of one scope. -/
abbrev OptionMap := Dict OptionValue

namespace OptionMap

/-- The options without the members of a group. -/
def clearGroup (map : OptionMap) (group : OptionGroup) : OptionMap :=
  group.keys.foldl Dict.erase map

/-- The options with one added, and the others of its group removed. -/
def put (map : OptionMap) (key : String) (value : OptionValue) : OptionMap :=
  match OptionGroup.ofKey? key with
  | some group => (map.clearGroup group).insert key value
  | none => map.insert key value

/-- The options with one set; the member of a group becomes a flag. -/
def set (map : OptionMap) (key : String) (value : OptionValue) : OptionMap :=
  map.put key (if (OptionGroup.ofKey? key).isSome then .flag else value)

/-- The first member of a group that is set. -/
def active? (map : OptionMap) (group : OptionGroup) : Option String :=
  group.keys.find? map.contains

/-- The text of an option that is set to one. -/
def text? (map : OptionMap) (key : String) : Option String :=
  (map.get? key).bind OptionValue.text?

/-- The display mode that the options ask for. -/
def displayMode? (map : OptionMap) : Option DisplayMode :=
  (map.active? .format).bind DisplayMode.ofKey?

theorem get?_eraseAll (map : OptionMap) (keys : List String) (key : String) :
    Dict.get? (keys.foldl Dict.erase map) key = if key ∈ keys then none else map.get? key := by
  induction keys generalizing map with
  | nil => simp
  | cons first rest ih =>
    rw [List.foldl_cons, ih, Dict.get?_erase]
    by_cases member : key ∈ rest
    · simp [member]
    · by_cases same : first = key
      · simp [same]
      · simp [member, same, Ne.symm same]

theorem get?_put_of_member {map : OptionMap} {key other : String} {value : OptionValue}
    {group : OptionGroup} (h : OptionGroup.ofKey? key = some group) (member : other ∈ group.keys)
    (different : key ≠ other) : (map.put key value).get? other = none := by
  simp [put, h, Dict.get?_insert, different, clearGroup, get?_eraseAll, member]

end OptionMap

end TerseQuery
