import TerseQuery.Disk
import TerseQuery.Json.Overlay
import TerseQuery.Json.Printer
import TerseQuery.Json.Reader
import TerseQuery.Settings.Json

/-!
# Files of settings

Settings are read from files in layers, from the lowest to the highest; each layer holds only what it
changes, and files that do not exist are left out. They are saved whole, in one file.
-/
namespace TerseQuery

/-- Where settings are kept. -/
structure SettingsPlaces where
  /-- The file of the working directory. -/
  localFile : String
  /-- The file of the user. -/
  globalFile : String
  deriving DecidableEq, Repr

/-- The file of settings below a directory of the working directory or the user. -/
def SettingsPlaces.fileName : String := "settings.json"

/-- The places of a user whose configuration is kept in a directory. -/
def SettingsPlaces.ofDirectories (working configuration : Location) : SettingsPlaces :=
  ⟨Disk.pathFrom working [".miniquery", fileName], Disk.pathFrom configuration ["miniquery", fileName]⟩

namespace Settings

/-- The value in a file of settings, if the file exists. -/
def readLayer (disk : Disk) (path : String) : Except Failure (Option Json) :=
  match disk.find? path with
  | none => .ok none
  | some .directory => .error (.config .unreadableFile)
  | some (.file text) =>
    match Json.read? text with
    | some value => .ok (some value)
    | none => .error (.config (.malformedFile path))

/-- The settings that layers make, from the lowest to the highest. -/
def ofLayers (layers : List Json) : Except Failure Settings :=
  match ofJson? (layers.foldl Json.overlay (.record [])) with
  | some settings => .ok settings
  | none => .error (.config .malformedSettings)

/-- The settings in files, from the lowest layer to the highest. -/
def load (disk : Disk) (paths : List String) : Except Failure Settings := do
  let layers ← paths.mapM (readLayer disk)
  ofLayers (layers.filterMap id)

/-- The settings of the user with those of the working directory over them. -/
def loadFrom (disk : Disk) (places : SettingsPlaces) : Except Failure Settings :=
  load disk [places.globalFile, places.localFile]

/-- The text of a file that holds the settings. -/
def fileText (s : Settings) : String :=
  s.toJson.pretty

/-- Saves the settings in a file, whose directory is made if it is not there: the disk then, and what went
wrong. -/
def save (s : Settings) (disk : Disk) (path : String) : Disk × Except Failure Unit :=
  match disk.makeParents path with
  | (ready, false) => (ready, .error (.config .uncreatedDirectory))
  | (ready, true) =>
    match ready.write? path s.fileText with
    | none => (ready, .error (.config .unwrittenFile))
    | some saved => (saved, .ok ())

end Settings

end TerseQuery
