import RemoteBindings.Descriptor.Basic
import RemoteBindings.Model.Basic
import RemoteBindings.Text.Blank
import RemoteBindings.Text.Case
import RemoteBindings.Text.Replace

/-!
# Routes of methods

The route of a method is that of its endpoint; a path that is not stated is the name of the method.
The path of an instance method goes on from the path of the shared constructor (`joinPaths`).
-/

namespace RemoteBindings

/-- What marks the name of an instance method. -/
def instanceMark : String := "prototype."

/-- A method name without its first instance mark. -/
def plainMethodName (name : String) : String := Text.replaceFirst instanceMark "" name

def joinPathChars (base path : List Char) : List Char :=
  let stem := Text.dropEndWhile (· == '/') base
  if path.isEmpty || path == ['/'] then (if stem.isEmpty then ['/'] else stem)
  else stem ++ '/' :: path.dropWhile (· == '/')

/-- Two paths joined by one slash; nothing is added for an empty path or the root. -/
def joinPaths (base path : String) : String :=
  String.ofList (joinPathChars base.toList path.toList)

/-- The route that a method states by itself. -/
def ownRoute (m : Descriptor.Method) : Route :=
  let stated := (m.http.map Descriptor.Endpoint.verb).getD ""
  let verb := if stated = "" then "post" else stated
  { verb := Text.lower verb
    path := (m.http.bind Descriptor.Endpoint.path).getD ("/" ++ plainMethodName m.name) }

/-- The route of a method: that of an instance method begins with the path of the constructor. -/
def routeOf (ctorPath : String) (m : Descriptor.Method) : Route :=
  let own := ownRoute m
  if m.isStatic then own else { own with path := joinPaths ctorPath own.path }

end RemoteBindings
