import RemoteBindings.Text.Words
import RemoteBindings.Value.Basic

/-!
# The registry of exposed models

Bindings are made for the models that the service exposes. The `Registry` is fixed before any type
is resolved; a type name is looked up in it without regard to case (`Registry.resolve?`), and the
class of a model is its name in Pascal case behind a prefix (`className`).
-/

namespace RemoteBindings

/-- The class generated for a model. -/
def className (modelName classPrefix : String) : String := classPrefix ++ Text.pascalCase modelName

structure Registry where
  names : List String
  classPrefix : String := ""
deriving Repr, DecidableEq

namespace Registry

def empty : Registry := ⟨[], ""⟩

/-- The declared name of a model, found without regard to case; the first of several. -/
def resolve? (r : Registry) (name : String) : Option String :=
  r.names.find? fun n => Text.lower n == Text.lower name

/-- The declared name of the model that a value names, if it is a text. -/
def resolveValue? (r : Registry) : Value → Option String
  | .text name => r.resolve? name
  | _ => none

def classOf? (r : Registry) (name : String) : Option String :=
  (r.resolve? name).map fun n => className n r.classPrefix

/-- Whether a value is the declared name of a model. -/
def contains (r : Registry) : Value → Bool
  | .text name => List.contains r.names name
  | _ => false

def classOfValue? (r : Registry) (v : Value) : Option String :=
  (r.resolveValue? v).map fun n => className n r.classPrefix

end Registry

end RemoteBindings
