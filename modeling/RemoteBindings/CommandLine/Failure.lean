import RemoteBindings.Console.Print

/-!
# What is printed of a failure

A failed command prints one message, which may go on with what the system or the schema says of the
error. `ownWords` is a message without that detail. If a path comes before it, then only where the
path is still one word that ends in a colon.
-/

namespace RemoteBindings.CommandLine

def datedLine (today message : String) : String := "[" ++ today ++ "] " ++ message

/-- Where the detail of a message begins. -/
inductive DetailPlace where
  | atOnce
  /-- Behind a path; behind one that has the ending it stays. -/
  | behindPath (kept : Option String)
deriving Repr, DecidableEq

/-- The starts of messages with a detail. -/
def detailed : List (String × DetailPlace) :=
  [("Invalid service descriptor:", .atOnce), ("Cannot read descriptor ", .behindPath none),
   ("Cannot parse descriptor ", .behindPath (some ".json"))]

/-- What is left of a message behind its start. -/
def DetailPlace.cut (rest : List Char) : DetailPlace → List Char
  | atOnce => ['\n']
  | behindPath kept =>
    let word := rest.takeWhile fun c => !Text.isBlank c
    let path := word.dropLast
    if path.isEmpty || word.getLast? != some ':' || rest[word.length]? != some ' ' ||
        (kept.map fun ending => ending.toList.isSuffixOf path).getD false then rest
    else path ++ ['\n']

/-- A message that has been laid out, without what others say of the error. -/
def ownWords (message : String) : String :=
  match detailed.find? fun d => d.1.toList.isPrefixOf message.toList with
  | some (start, detail) => start ++ String.ofList (detail.cut (message.toList.drop start.length))
  | none => message

end RemoteBindings.CommandLine
