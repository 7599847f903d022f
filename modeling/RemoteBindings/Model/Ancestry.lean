import RemoteBindings.Descriptor.Basic

/-!
# User models

The User model ships with every client, and so does every model whose chain of bases reaches it.
`isUserModel` follows the chain from class to class and stops where a class comes up again, so it
ends on cyclic chains too.
-/

namespace RemoteBindings

open Descriptor (ModelClass)

def userModelName : String := "User"

/-- The classes of a descriptor by name; of classes with one name the last counts. -/
def classesByName (classes : List ModelClass) : Entries String ModelClass :=
  Entries.ofList (classes.map fun c => (c.name, c))

/-- The name of the base of a class, if it is stated by name. -/
def baseName? (c : ModelClass) : Option String :=
  match c.settings.base with
  | .text name => some name
  | _ => none

/-- Follows the bases of `c` for at most `steps` classes; `seen` holds the names passed so far. -/
def reachesUser (byName : Entries String ModelClass) : Nat → List String → ModelClass → Bool
  | 0, _, _ => false
  | steps + 1, seen, c =>
    if seen.contains c.name then false
    else if c.isUser || c.name == userModelName then true
    else match baseName? c with
      | none => false
      | some base =>
        if base = userModelName then true
        else match Entries.find? base byName with
          | none => false
          | some next => reachesUser byName steps (c.name :: seen) next

/-- Whether a class is the User model or extends it. No chain passes more classes than there are
names, and the first class may lie outside. -/
def isUserModel (byName : Entries String ModelClass) (c : ModelClass) : Bool :=
  reachesUser byName (byName.length + 1) [] c

end RemoteBindings
