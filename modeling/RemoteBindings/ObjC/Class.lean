import RemoteBindings.ObjC.Selector
import RemoteBindings.Run

/-!
# Classes of models

`synthesize` fills in what the Objective-C classes of a model consist of: their names, the base
class, the declared properties and the selectors. It stops at the first fault and then keeps what it
had reached. A method for which there is a selector already gets no other.
-/

namespace RemoteBindings.ObjC

open Journal (Record)

/-- Base models for which the client library has a class. -/
def knownBases : List String := ["Model", "PersistedModel"]

/-- The class of the client library that is the base of a model. -/
def baseClass? : Value → Option String
  | .text name => if knownBases.contains name then some ("LB" ++ name) else none
  | _ => none

def propertyTypeOf (modelName name : String) (type : Value) : Except Fault String :=
  match propertyType? type with
  | none => .error (.ofType (.unsupportedProperty · name modelName) type)
  | some written => .ok written

/-- The declared properties of a model; the base class declares the id. -/
def declare (modelName : String) : List (String × Property) → Run (List DeclaredProperty)
  | [] => { result := [] }
  | (name, p) :: ps =>
    if name = "id" then declare modelName ps
    else if !p.type.isWritable then ⟨[], [], some .unwritable⟩
    else
      let seen := Record.ofModel modelName "PROP" (name ++ ": " ++ p.type.literal)
      match propertyTypeOf modelName name p.type with
      | .error e => ⟨[], [seen], some e⟩
      | .ok type => (declare modelName ps).map (⟨name, type⟩ :: ·) |>.after [seen]

/-- A method after work on it, with the selectors that it has gained. -/
structure Worked where
  method : Method
  gained : List Selector := []

/-- One pass over a method. -/
def work (r : Registry) (model : Model) (pass : Pass) (w : Worked) : Run Worked :=
  match attempt r model w.method pass with
  | .error e => ⟨w, [], some e⟩
  | .ok .unbound => { result := w }
  | .ok (.withheld name) =>
    .record (.ofModel model.name "SKIP" (name ++ " cannot be invoked safely")) w
  | .ok (.selector s) =>
    { result := ⟨{ w.method with generated := true }, w.gained ++ [s]⟩ }

/-- The selectors of a method: one for the required arguments, and if there are others, one for all
arguments. -/
def workBoth (r : Registry) (model : Model) (m : Method) : Run Worked :=
  if m.generated then
    .record (.ofModel model.name "SKIP" (m.name ++ " was already generated")) ⟨m, []⟩
  else
    let first := work r model .requiredOnly ⟨m, []⟩
    (if hasOptional m then first.bind id (work r model .all) else first).after
      [.ofModel model.name "METHOD" m.name]

def workAll (r : Registry) (model : Model) (ms : List Method) : Run (List Worked) :=
  (Run.each (fun w => workBoth r model w.method) (ms.map (⟨·, []⟩)))

/-- Adds the selectors of the methods that have none yet. -/
def bindMethods (r : Registry) (model : Model) : Run Model :=
  (workAll r model model.methods).map fun ws =>
    { model with
      methods := ws.map Worked.method
      selectors := model.selectors ++ ws.flatMap Worked.gained }

def named (r : Registry) (model : Model) : Model :=
  let cls := className model.name r.classPrefix
  { model with className := cls, repositoryName := cls ++ "Repository" }

/-- Gives a named model its base class. -/
def withBase (model : Model) : Run Model :=
  match baseClass? model.baseModel with
  | none => ⟨model, [], some (.ofBase model.baseModel model.name)⟩
  | some cls => { result := { model with baseClass := cls } }

def withProperties (model : Model) : Run Model :=
  (declare model.name model.properties).bind (fun _ => model) fun ps =>
    { result := { model with declaredProperties := ps } }

def synthesize (r : Registry) (model : Model) : Run Model :=
  ((withBase (named r model)).bind id withProperties |>.bind id (bindMethods r)).after
    [.ofModel model.name "MODEL" "synthesizing types and selectors"]

/-- Synthesizes one model after the other. -/
def synthesizeAll (r : Registry) (models : Models) : Run Models :=
  Run.each (fun (key, model) => (synthesize r model).map (key, ·)) models

/-- A class name without the mark of a pointer. -/
def pointedClass? (type : String) : Option String := Text.beforeEnd? " *" type

/-- The class names that the methods of a model mention, in order. -/
def mentioned (model : Model) : List String :=
  model.includes ++ model.selectors.flatMap fun s =>
    s.returnType :: s.arguments.filterMap fun a => pointedClass? a.type

/-- The other generated classes that the headers of a model need, each once. -/
def referencedClasses (generated : List String) (model : Model) : List String :=
  (mentioned model).foldl
    (fun classes cls =>
      if generated.contains cls && cls != model.className && !classes.contains cls then
        classes ++ [cls]
      else classes) []

end RemoteBindings.ObjC
