import TerseQuery.CommandLine.Run

/-!
# The program

Hands the arguments, the variables and the files of settings to the program, and carries out what it leaves.
-/
namespace TerseQuery.Main

open CommandLine

/-- The place that an absolute path names. -/
def locationOf (path : String) : Location :=
  ((Disk.splitPath path).filter (· ≠ "")).reverse

/-- The directory in which the user keeps configuration. -/
def configurationDirectory : IO Location := do
  match ← IO.getEnv "XDG_CONFIG_HOME" with
  | some path => if path.toList.head? == some '/' then return locationOf path
  | none => pure ()
  return ".config" :: locationOf ((← IO.getEnv "HOME").getD "/")

/-- A disk with one more file, if the file is there. -/
def withFile (disk : Disk) (path : String) : IO Disk := do
  try
    let text ← IO.FS.readFile path
    return ((disk.makeParents path).1.write? path text).getD disk
  catch _ => return disk

/-- Makes what was put on a disk after it had a number of entries. -/
def carryOut (before : Nat) (disk : Disk) : IO Unit := do
  for (location, entry) in (disk.entries.take (disk.entries.length - before)).reverse do
    let path := Disk.pathFrom location []
    match entry with
    | .directory => IO.FS.createDirAll path
    | .file text => IO.FS.writeFile path text

/-- The files of settings that a run may read. -/
def settingsFiles (places : SettingsPlaces) (arguments : List String) : List String :=
  match read arguments with
  | .run a => a.settings.elim [places.globalFile, places.localFile] fun path => [path]
  | _ => []

/-- Runs the program. No database can be opened here. -/
def execute (arguments : List String) : IO UInt32 := do
  let here := locationOf (← IO.currentDir).toString
  let places := SettingsPlaces.ofDirectories here (← configurationDirectory)
  let disk ← (settingsFiles places arguments).foldlM withFile (Disk.workingIn here)
  let report := run
    { disk, places, databases := fun _ => none, database := ← IO.getEnv "MINI_DB"
      options := ← IO.getEnv "MINI_OPTIONS" } arguments
  carryOut disk.entries.length report.disk
  IO.print report.output
  if let some complaint := report.complaint then IO.eprintln complaint
  return report.code.toUInt32

end TerseQuery.Main

def main (arguments : List String) : IO UInt32 :=
  TerseQuery.Main.execute arguments
