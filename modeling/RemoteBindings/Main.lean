import RemoteBindings.CommandLine.Program
import Std.Time.Zoned

/-!
# The command line

Reads the files that the arguments name and the environment, runs the program on them, and writes
what it has written.
-/

namespace RemoteBindings.CommandLine

def settingNames : List String := ["LBSDK_MODEL_PREFIX", "LBSDK_OUTPUT_DIR", "LBSDK_TEMPLATES_DIR"]

def readEnvironment : IO (Entries String String) :=
  (settingNames.map Text.lower ++ settingNames).filterMapM fun name => do
    return (← IO.getEnv name).map fun value => (name, value)

/-- The content of a file, if it can be read. -/
def readFile? (path : Path) : IO (Option (List UInt8)) := do
  try
    return some (← IO.FS.readBinFile path.text).toList
  catch _ => return none

/-- The files of some names, seen from a directory. -/
def readDisk (directory : Path) (names : List String) : IO Disk := do
  let files ← names.filterMapM fun name => do
    let path := directory.resolve (Path.ofText name)
    return (← readFile? path).map fun content => (path.parts, content)
  return { files := Entries.ofList files, directories := [directory.parts] }

/-- The path of a place. -/
def pathOf (p : Place) : Path := ⟨.single, p⟩

/-- Carries over to the file system what is new on a disk. -/
def saveDisk (before after : Disk) : IO Unit := do
  for p in after.directories.reverse do
    IO.FS.createDirAll (pathOf p).text
  for (p, content) in after.files do
    if Entries.find? p before.files != some content then
      IO.FS.writeBinFile (pathOf p).text ⟨content.toArray⟩

def readToday : IO String := do
  let now ← Std.Time.PlainDate.now
  return (Date.mk now.year.toInt.toNat now.month.toNat now.day.toNat).display

def readSurroundings (args : List String) : IO Surroundings := do
  let directory := Path.ofText (toString (← IO.currentDir))
  return { environment := ← readEnvironment
           directory
           disk := ← readDisk directory (".env" :: args)
           today := ← readToday }

end RemoteBindings.CommandLine

open RemoteBindings.CommandLine in
def main (args : List String) : IO UInt32 := do
  let surroundings ← readSurroundings args
  let outcome := run surroundings args
  saveDisk surroundings.disk outcome.disk
  IO.print (outcome.output ++ outcome.text)
  IO.eprint outcome.errors
  if let some stop := outcome.stop then IO.eprintln ("Stopped: " ++ stop.message)
  return outcome.exitCode.toUInt32
