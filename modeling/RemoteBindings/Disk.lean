import RemoteBindings.Entries
import RemoteBindings.Path
import RemoteBindings.Text.Quoted

/-!
# Files that the program sees

A `Disk` holds files by their place, the names on the way from the root. `Disk.read` reads a file
and `Disk.write` changes one; both find a place by following a path name by name, so a missing
directory on the way is an error even if the path leads back out of it.
-/

namespace RemoteBindings

abbrev Place := List String

inductive DiskError where
  /-- The file, or a directory on the way, is not there. -/
  | missing
  /-- A file stands where a directory should be made. -/
  | fileInTheWay
  /-- A file stands on the way. -/
  | notDirectory
  /-- A directory stands where a file should be. -/
  | isDirectory
  | nameTooLong
  /-- A path holds the character that ends a path for the system. -/
  | impossiblePath
deriving Repr, DecidableEq

/-- The number and the name that the system has for an error. -/
def DiskError.systemName : DiskError → Nat × String
  | missing => (2, "No such file or directory")
  | fileInTheWay => (17, "File exists")
  | notDirectory => (20, "Not a directory")
  | isDirectory => (21, "Is a directory")
  | nameTooLong => (36, "File name too long")
  | impossiblePath => (22, "Invalid argument")

/-- What the system says of an error at a path. -/
def DiskError.message (path : Path) (e : DiskError) : String :=
  "[Errno " ++ toString e.systemName.1 ++ "] " ++ e.systemName.2 ++ ": " ++ Text.quoted path.text

structure Disk where
  files : Entries Place (List UInt8)
  /-- Directories that exist even without a file in them. -/
  directories : List Place
deriving Repr, DecidableEq

namespace Disk

def hasFile (d : Disk) (p : Place) : Bool := Entries.hasKey p d.files

def hasDirectory (d : Disk) (p : Place) : Bool :=
  p.isEmpty || d.directories.any p.isPrefixOf ||
    d.files.keys.any fun q => p.isPrefixOf q && p != q

/-- The most bytes that a name may have. -/
def maxNameBytes : Nat := 255

/-- Steps into a directory. -/
def enter (d : Disk) (p : Place) (name : String) : Except DiskError Place :=
  if name = ".." then .ok p.dropLast
  else if maxNameBytes < name.utf8ByteSize then .error .nameTooLong
  else
    let q := p ++ [name]
    if d.hasDirectory q then .ok q
    else if d.hasFile q then .error .notDirectory
    else .error .missing

/-- Follows names from a place; the last one need not exist. -/
def follow (d : Disk) (p : Place) : List String → Except DiskError Place
  | [] => .ok p
  | [name] =>
    if name = ".." then .ok p.dropLast
    else if maxNameBytes < name.utf8ByteSize then .error .nameTooLong
    else .ok (p ++ [name])
  | name :: names => do
    let q ← d.enter p name
    d.follow q names

def locate (d : Disk) (p : Path) : Except DiskError Place :=
  if p.isPossible then d.follow [] p.parts else .error .impossiblePath

/-- The content of a file. -/
def read (d : Disk) (p : Path) : Except DiskError (List UInt8) := do
  let place ← d.locate p
  match Entries.find? place d.files with
  | some content => return content
  | none => throw (if d.hasDirectory place then .isDirectory else .missing)

/-- Makes the directories of some names below a place. -/
def makeBelow (d : Disk) (p : Place) : List String → Except DiskError Disk
  | [] => .ok d
  | name :: names =>
    let q := p ++ [name]
    if maxNameBytes < name.utf8ByteSize then .error .nameTooLong
    else if d.hasFile q then .error (if names.isEmpty then .fileInTheWay else .notDirectory)
    else
      let directories := if d.hasDirectory q then d.directories else q :: d.directories
      makeBelow { d with directories } q names

/-- Makes a directory and those around it; the path has no dots. -/
def makeDirectories (d : Disk) (p : Path) : Except DiskError Disk := d.makeBelow [] p.parts

/-- Writes a file; its directory must exist. -/
def write (d : Disk) (p : Path) (content : List UInt8) : Except DiskError Disk := do
  let place ← d.locate p
  if d.hasDirectory place then throw .isDirectory
  return { d with files := Entries.put place content d.files }

end Disk

end RemoteBindings
