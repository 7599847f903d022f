import RemoteBindings.Fault
import RemoteBindings.Journal.Record
import RemoteBindings.Model.Route
import RemoteBindings.ObjC.TypeMap

/-!
# Selectors

A remote method is called through an Objective-C method: its arguments, then a block for success and
one for failure. `attempt` makes the selector of a method from the arguments that one pass over it
considers (`considered`): the required ones only, or all of them. Arguments that the server computes
never appear.
-/

namespace RemoteBindings.ObjC

/-- Which arguments a selector has. -/
inductive Pass where
  | requiredOnly
  | all
deriving Repr, DecidableEq

/-- Methods that the classes of the client library have already, or that cannot be supported. -/
def unboundMethods : List String :=
  ["create", "upsert", "deleteById", "createChangeStream", "prototype.updateAttributes",
   "prototype.patchAttributes"]

/-- Selectors that cannot be invoked safely. -/
def withheldNames : List String := ["updateAllWithData"]

/-- Names that read better than those put together from a method and its first argument. -/
def betterNames : List (String × String) :=
  [("findByIdWithId", "findById"),
   ("findWithSuccess", "allWithSuccess"),
   ("updateAllWithWhere", "updateAllWithWhereFilter"),
   ("countWithWhere", "countWithWhereFilter")]

def betterName (name : String) : String := (betterNames.lookup name).getD name

/-- The arguments of a method that stand in a selector of the pass. -/
def considered (pass : Pass) (m : Method) : List Param :=
  m.accepts.filter fun p => !p.isServerComputed && (p.isRequired || pass == .all)

def hasOptional (m : Method) : Bool :=
  m.accepts.any fun p => !p.isServerComputed && !p.isRequired

/-- The class of an object argument: that of the model it names, or of the model of the method. -/
def argumentClass (r : Registry) (modelClass : String) (p : Param) : String :=
  match p.model with
  | none | some "" => modelClass
  | some name => match r.classOf? name with
    | none | some "" => name
    | some cls => cls

/-- The name of the Objective-C parameter; `id` is a type there. -/
def parameterName (arg : String) : String := if arg = "id" then "id_" else arg

/-- What is sent for an argument: an instance as its dictionary, and an empty one for none. -/
def sentValue (type modelType name : String) : String :=
  if type = modelType then "[" ++ name ++ " toDictionary]"
  else if type = "NSDictionary *" then "(" ++ name ++ " ? " ++ name ++ " : @\x7b\x7d)"
  else name

def argumentOf (r : Registry) (model : Model) (m : Method) (p : Param) : Except Fault Argument :=
  let modelType := pointer (argumentClass r model.className p)
  match argumentType? p.type p.arg modelType with
  | none => .error (.ofType (.unsupportedArgument · p.arg m.name model.name) p.type)
  | some type =>
    let name := parameterName p.arg
    .ok { arg := p.arg, name, type, value := sentValue type modelType name, isBody := p.isBody }

/-- The arguments of a selector, of which one at most may be the body; `hasBody` says whether there
was one before. -/
def argumentsOf (r : Registry) (model : Model) (m : Method) :
    Bool → List Param → Except Fault (List Argument)
  | _, [] => .ok []
  | hasBody, p :: ps =>
    match argumentOf r model m p with
    | .error e => .error e
    | .ok a =>
      if a.isBody && hasBody then .error (.multipleBodies m.name model.name)
      else match argumentsOf r model m (hasBody || a.isBody) ps with
        | .error e => .error e
        | .ok as => .ok (a :: as)

/-- The name of a selector: the method and its first argument. -/
def fullName (m : Method) : List Argument → String
  | [] => plainMethodName m.name ++ "WithSuccess"
  | a :: _ => plainMethodName m.name ++ "With" ++ Text.upperFirst a.arg

/-- The block that receives a result of the type. -/
def successBlock (type : String) : String :=
  let received :=
    if type = "void" then "" else if type = "BOOL" then type else pointer type
  "void (^)(" ++ received ++ ")"

def segmentIndent : String := "\n        "

def typedName (a : Argument) : String := ":(" ++ a.type ++ ")" ++ a.name

def argumentSegments : List Argument → String
  | [] => ""
  | a :: as => typedName a ++ String.join (as.map fun b => " " ++ b.arg ++ typedName b)

/-- The declaration of a method of the given name. -/
def prototypeOf (name returnType : String) (arguments : List Argument) : String :=
  let success := ":(" ++ successBlock returnType ++ ")success"
  "(void)" ++ name ++ argumentSegments arguments ++
    (if arguments.isEmpty then success else segmentIndent ++ "success" ++ success) ++
    segmentIndent ++ "failure:(SLFailureBlock)failure"

/-- The entry of an argument in the dictionary of parameters. -/
def assignment (a : Argument) : String := "@\"" ++ a.arg ++ "\": " ++ a.value

/-- The dictionary entries of the arguments outside the body. -/
def assignmentsOf (arguments : List Argument) : Option String :=
  match arguments.filter fun a => !a.isBody with
  | [] => none
  | as => some (String.intercalate ", " (as.map assignment))

def bodyOf (arguments : List Argument) : Option String :=
  (arguments.find? Argument.isBody).map Argument.value

/-- The name of the elements' type, if an array of a named type is returned. -/
def elementTypeOf (m : Method) : String :=
  match m.result.type with
  | .list (.text name :: _) => name
  | .tuple (.text name :: _) => name
  | _ => ""

/-- The kind of a return type in a model of the given class. -/
def returnKindOf (type modelClass : String) : ReturnKind :=
  if type = "void" then .void
  else if type = "BOOL" then .primitive
  else if type = modelClass then .model
  else if type = "NSArray" then .collection
  else if (returnTypes.map Prod.snd).contains type then .object
  else .foreignModel

/-- What comes of a method in one pass. -/
inductive Attempt where
  /-- The method needs no selector. -/
  | unbound
  /-- The selector of this name must not be invoked. -/
  | withheld (name : String)
  | selector (s : Selector)

def returnTypeOf (r : Registry) (model : Model) (m : Method) : Except Fault String :=
  match returnType? r model.name model.className m.returnsArray m.result.type with
  | none => .error (.ofType (.unsupportedReturn · m.name model.name) m.result.type)
  | some type => .ok type

def selectorOf (model : Model) (m : Method) (arguments : List Argument) (returnType : String) :
    Selector :=
  let name := betterName (fullName m arguments)
  { rawName := m.name
    name
    prototype := prototypeOf name returnType arguments
    returnArg := m.result.arg
    returnType
    elementType := elementTypeOf m
    returnKind := returnKindOf returnType model.className
    paramAssignments := assignmentsOf arguments
    bodyAssignment := bodyOf arguments
    arguments
    httpVerb := Text.upper m.http.verb
    httpPath := m.http.path }

def attempt (r : Registry) (model : Model) (m : Method) (pass : Pass) : Except Fault Attempt :=
  if unboundMethods.contains m.name then .ok .unbound
  else match argumentsOf r model m false (considered pass m) with
    | .error e => .error e
    | .ok arguments => match returnTypeOf r model m with
      | .error e => .error e
      | .ok returnType =>
        let name := fullName m arguments
        if withheldNames.contains name then .ok (.withheld name)
        else .ok (.selector (selectorOf model m arguments returnType))

end RemoteBindings.ObjC
