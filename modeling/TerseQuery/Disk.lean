/-!
# Files

A disk is a tree of directories with text files at its leaves, and the directory in which a program works.
Paths are texts: names apart by `/`, from the root if they start with one and from the working directory
otherwise.

* `isDirectory_of_write?`: writing a file neither makes nor removes a directory.
* `read?_of_write?`: a file that was written is read as it was written.
-/
namespace TerseQuery

/-- Where a file or a directory is: the names from it outward to the root. -/
abbrev Location := List String

inductive DiskEntry where
  | directory
  | file (text : String)
  deriving DecidableEq, Repr

structure Disk where
  /-- What is on the disk; of entries at one place the first counts. -/
  entries : List (Location × DiskEntry)
  /-- The working directory. -/
  here : Location
  deriving DecidableEq, Repr

namespace Disk

/-- A disk with a working directory, all directories around it, and nothing else. -/
def workingIn (here : Location) : Disk :=
  ⟨(List.range (here.length + 1)).map fun n => (here.drop n, .directory), here⟩

/-- What is at a place. -/
def entryAt? (d : Disk) (location : Location) : Option DiskEntry :=
  d.entries.lookup location

def isDirectory (d : Disk) (location : Location) : Bool :=
  d.entryAt? location == some .directory

/-- The disk with an entry at a place. -/
def put (d : Disk) (location : Location) (entry : DiskEntry) : Disk :=
  { d with entries := (location, entry) :: d.entries }

/-- Whether a text may be a path: it has no zero character and is not too long. -/
def isPath (path : String) : Bool :=
  path.toList.all (· != '\x00') && decide (path.utf8ByteSize ≤ 4095)

/-- Whether a part of a path is short enough for the name of a file. -/
def isName (part : String) : Bool :=
  decide (part.utf8ByteSize ≤ 255)

/-- The parts of a path. -/
def splitPath (path : String) : List String :=
  (path.toList.splitOn '/').map String.ofList

/-- The place from which a path starts. -/
def startOf (d : Disk) (path : String) : Location :=
  if path.toList.head? == some '/' then [] else d.here

/-- The place that the parts of a path lead to. Each part starts from a directory. -/
def walk? (d : Disk) (location : Location) : List String → Option Location
  | [] => some location
  | part :: rest =>
    if d.isDirectory location then
      if part = "" ∨ part = "." then d.walk? location rest
      else if part = ".." then d.walk? location.tail rest
      else if isName part then d.walk? (part :: location) rest
      else none
    else none

/-- The place that a path names. The empty path names none. -/
def locate? (d : Disk) (path : String) : Option Location :=
  if path = "" ∨ isPath path = false then none else d.walk? (d.startOf path) (splitPath path)

/-- What a path leads to. -/
def find? (d : Disk) (path : String) : Option DiskEntry :=
  (d.locate? path).bind d.entryAt?

/-- The text of the file that a path leads to. -/
def read? (d : Disk) (path : String) : Option String :=
  match d.find? path with
  | some (.file text) => some text
  | _ => none

/-- The disk with a text in a file. The directory of the file has to be there. -/
def write? (d : Disk) (path text : String) : Option Disk :=
  (d.locate? path).bind fun location =>
    if d.isDirectory location then none else some (d.put location (.file text))

/-- Makes the directories that the parts of a path lead through, from the outermost, as far as it can: the
disk then, and whether all of them are there. -/
def makeDirectories (d : Disk) (location : Location) : List String → Disk × Bool
  | [] => (d, true)
  | part :: rest =>
    if part = ".." then d.makeDirectories location.tail rest
    else
      match d.entryAt? (part :: location) with
      | some .directory => d.makeDirectories (part :: location) rest
      | some (.file _) => (d, false)
      | none =>
        if isName part then (d.put (part :: location) .directory).makeDirectories (part :: location) rest
        else (d, false)

/-- Whether a part of a path leads on from a directory. -/
def isStep (part : String) : Bool :=
  part != "" && part != "."

/-- The path without its last step: that of the directory of a file. -/
def parentPath (path : String) : String :=
  let upward := ((splitPath path).reverse.dropWhile fun part => !isStep part).drop 1
  String.intercalate "/" (upward.dropWhile fun part => !isStep part).reverse

/-- Makes the directory of a file and those around it, as far as it can. Nothing is made if that directory
has no path. -/
def makeParents (d : Disk) (path : String) : Disk × Bool :=
  let parent := parentPath path
  if isPath parent then d.makeDirectories (d.startOf parent) ((splitPath parent).filter isStep)
  else (d, false)

/-- The path of what is reached by names from a place. -/
def pathFrom (location : Location) (names : List String) : String :=
  "/" ++ String.intercalate "/" (location.reverse ++ names)

theorem entryAt?_put (d : Disk) (location other : Location) (entry : DiskEntry) :
    (d.put location entry).entryAt? other = if other = location then some entry else d.entryAt? other := by
  by_cases same : other = location
  · simp [put, entryAt?, same]
  · have : (other == location) = false := by simpa using same
    simp [put, entryAt?, List.lookup_cons, this, same]

/-- A path leads to the same place on disks with the same directories. -/
theorem walk?_congr {a b : Disk} (h : ∀ location, a.isDirectory location = b.isDirectory location)
    (location : Location) (parts : List String) : a.walk? location parts = b.walk? location parts := by
  induction parts generalizing location with
  | nil => rfl
  | cons part rest ih => simp only [walk?, h, ih]

theorem isDirectory_of_write? {d after : Disk} {path text : String}
    (h : d.write? path text = some after) (location : Location) :
    after.isDirectory location = d.isDirectory location := by
  obtain ⟨target, _, written⟩ := Option.bind_eq_some_iff.1 h
  split at written
  · simp at written
  · rename_i noDirectory
    simp only [Option.some.injEq] at written
    subst written
    by_cases same : location = target
    · subst same
      rw [Bool.eq_false_iff.2 noDirectory]
      simp [isDirectory, entryAt?_put]
    · simp [isDirectory, entryAt?_put, same]

theorem read?_of_write? {d after : Disk} {path text : String} (h : d.write? path text = some after) :
    after.read? path = some text := by
  have directories := isDirectory_of_write? h
  obtain ⟨target, found, written⟩ := Option.bind_eq_some_iff.1 h
  split at written
  · simp at written
  · simp only [Option.some.injEq] at written
    subst written
    have found' : (d.put target (.file text)).locate? path = some target := by
      rw [← found]
      simp only [locate?, walk?_congr directories]
      rfl
    simp [read?, find?, found', entryAt?_put]

end Disk

end TerseQuery
