import RemoteBindings.Descriptor.Report
import RemoteBindings.Disk
import RemoteBindings.Json.Reader
import RemoteBindings.Text.Lines
import RemoteBindings.Yaml.Reader
import RemoteBindings.Yaml.Report

/-!
# Descriptor files

`load` turns the content of a file into a service descriptor. A name that ends in `.json` announces
JSON; everything else is read as YAML.
-/

namespace RemoteBindings.Descriptor

variable [Text.LoneSurrogate]

/-- Why a file holds no descriptor. -/
inductive LoadError where
  | unreadable (e : DiskError)
  /-- The file is not in UTF-8. -/
  | undecodable
  | json (e : Json.Error) (text : String)
  | yaml (p : Yaml.Problem) (text : String)
  | refused (r : Refusal)

/-- The value that a text stands for in a file of the given path. -/
def parseText (path : Path) (text : String) : Except LoadError Value :=
  if path.hasEnding ".json" then
    match Json.read? text with
    | .ok v => .ok v
    | .error e => .error (.json e text)
  else
    match Yaml.read? text with
    | .ok v => .ok v
    | .error p => .error (.yaml p text)

def decodeText (bytes : List UInt8) : Except LoadError String :=
  match String.fromUTF8? ⟨bytes.toArray⟩ with
  | some s => .ok (Text.unifyLineEnds s)
  | none => .error .undecodable

/-- The descriptor in a file with a content, or with an error in its place. -/
def load (path : Path) (content : Except DiskError (List UInt8)) : Except LoadError Service := do
  let bytes ← content.mapError .unreadable
  let text ← decodeText bytes
  let value ← parseText path text
  (build value).mapError .refused

/-- Whether an error is one of the descriptor; the others stop the program. -/
def LoadError.isReported : LoadError → Bool
  | .unreadable e => e != .impossiblePath
  | .undecodable => false
  | .json e _ => e.problem != .hugeInteger
  | .yaml p _ => p.isReported
  | .refused _ => true

/-- The message of an error in the file of a path. -/
def LoadError.message (path : Path) : LoadError → String
  | .unreadable _ => "Cannot read descriptor " ++ path.text
  | .json e text => "Cannot parse descriptor " ++ path.text ++ ": " ++ e.message text
  | .undecodable | .yaml _ _ => "Cannot parse descriptor " ++ path.text
  | .refused r => r.message

/-- The message of an error and what the system, the text or the schema says of it. -/
def LoadError.report (path : Path) : LoadError → String
  | .unreadable e => "Cannot read descriptor " ++ path.text ++ ": " ++ e.message path
  | .yaml p text =>
    "Cannot parse descriptor " ++ path.text ++ ": " ++ String.intercalate "\n" (p.report text)
  | .refused r => r.report
  | e => e.message path

end RemoteBindings.Descriptor
