import RemoteBindings.Text.Replace

/-!
# Names of relation accessors

The accessors of a relation are instance methods named `prototype.__op__scope`: the operation has no
underscore, the scope is one line. `AccessorName.parse?` reads such a name, `AccessorName.compose`
writes it, and `AccessorName.apiName` is the name under which a client calls the accessor.
-/

namespace RemoteBindings

structure AccessorName where
  op : String
  scope : String
deriving Repr, DecidableEq

namespace AccessorName

def opening : List Char := "prototype.__".toList

/-- A scope name from the end of a method name, where one final line feed does not count. -/
def scopeOf? (cs : List Char) : Option (List Char) :=
  let line := cs.takeWhile (· != '\n')
  let rest := cs.dropWhile (· != '\n')
  if line ≠ [] ∧ (rest = [] ∨ rest = ['\n']) then some line else none

/-- Reads what follows the opening of an accessor name. -/
def parseTail? (cs : List Char) : Option AccessorName :=
  let op := cs.takeWhile (· != '_')
  match op, cs.dropWhile (· != '_') with
  | _ :: _, '_' :: '_' :: rest =>
    (scopeOf? rest).map fun scope => ⟨String.ofList op, String.ofList scope⟩
  | _, _ => none

def parse? (name : String) : Option AccessorName :=
  if opening.isPrefixOf name.toList then parseTail? (name.toList.drop opening.length) else none

/-- The method name of an accessor. -/
def compose (a : AccessorName) : String := "prototype.__" ++ a.op ++ "__" ++ a.scope

/-- The name of an accessor in the list of methods, where it needs no mark. -/
def listedName (a : AccessorName) : String := a.op ++ "__" ++ a.scope

/-- Getting is the scope itself, deleting removes all of it. -/
def apiName (a : AccessorName) : String :=
  if a.op = "get" then a.scope
  else if a.op = "delete" then a.scope ++ ".destroyAll"
  else a.scope ++ "." ++ a.op

end AccessorName

end RemoteBindings
