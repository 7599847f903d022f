import RemoteBindings.Descriptor.Validation
import RemoteBindings.Value.Cycle

/-!
# Reports on a descriptor

`Refusal.report` lists every issue of a refused descriptor: where it is, what is wrong, and the
value that is there, of which a long literal keeps its ends (`shortened`).
-/

namespace RemoteBindings.Descriptor

/-- The most bytes of a literal in a report. -/
def literalLimit : Nat := 50

/-- As many characters as fit into some bytes. -/
def takeBytes (size : Nat) : List Char → List Char
  | [] => []
  | c :: cs => if c.utf8Size ≤ size then c :: takeBytes (size - c.utf8Size) cs else []

/-- A text beyond the limit is cut in the middle, with an ellipsis in place of what is left out. -/
def shortened (s : String) : String :=
  if s.utf8ByteSize ≤ literalLimit then s
  else
    let first := takeBytes (literalLimit / 2) s.toList
    let last := takeBytes (literalLimit / 2 - 1) s.toList.reverse
    String.ofList (first ++ ['.', '.', '.'] ++ last.reverse)

/-- The literal of a value, if its integers are not too long. -/
def givenText (v : Value) : String :=
  if v.isWritable then v.settled.literal else "<unprintable " ++ v.kindName ++ " object>"

/-- A step in a report: a name that holds a point is in quotes. -/
def Step.text : Step → String
  | .key name => if name.contains '.' then "\x60" ++ name ++ "\x60" else name
  | .index n => toString n

/-- The lines of an issue. -/
def Issue.report (i : Issue) : List String :=
  (if i.path.isEmpty then [] else [String.intercalate "." (i.path.map Step.text)]) ++
    ["  " ++ i.problem.message ++ " [type=" ++ i.problem.code ++ ", input_value=" ++
      shortened (givenText i.given) ++ ", input_type=" ++ i.given.kindName ++ "]"]

/-- The message of a refusal and every issue. -/
def Refusal.report : Refusal → String
  | .empty => Refusal.empty.message
  | .invalid issues =>
    let count := toString issues.length ++ " validation error" ++
      (if issues.length = 1 then "" else "s") ++ " for ServiceDescriptor"
    String.intercalate "\n"
      ((Refusal.invalid issues).message :: count :: issues.flatMap Issue.report)

end RemoteBindings.Descriptor
