import RemoteBindings.Model.Registry
import RemoteBindings.Value.Display

/-!
# Objective-C types

`propertyType?`, `argumentType?` and `returnType?` give the Objective-C type of a described type in
each of the places where one may stand, and `none` where the type has no counterpart. Types without
a name have a marker of their own in the tables, `arrayMarker` and `voidMarker`.
-/

namespace RemoteBindings.ObjC

def arrayMarker : String := "<array>"

def voidMarker : String := "<void>"

/-- Stands in the table for the class of the model that the method belongs to. -/
def modelTypeMark : String := "<objcModelType>"

def pointer (cls : String) : String := cls ++ " *"

/-- The declaration of a property up to its name. -/
def propertyTypes : List (String × String) :=
  [("String", "(nonatomic, copy) NSString *"),
   ("Number", "NSNumber *"),
   ("Boolean", "BOOL "),
   (arrayMarker, "(nonatomic) NSArray *"),
   ("ObjectID", "(nonatomic, copy) NSString *"),
   ("Date", "NSDate *"),
   ("object", "NSDictionary *"),
   ("Object", "NSDictionary *")]

/-- Argument types; an object argument named `data` is an instance of the model. -/
def argumentTypes : List (String × String) :=
  [("object data", modelTypeMark),
   ("object", "NSDictionary *"),
   ("Object", "NSDictionary *"),
   ("any", "id"),
   ("Any", "id"),
   ("boolean", "NSNumber *"),
   ("Boolean", "NSNumber *"),
   ("string", "NSString *"),
   ("String", "NSString *"),
   ("number", "NSNumber *"),
   ("Number", "NSNumber *"),
   (arrayMarker, "NSArray *")]

/-- Return types, without the pointer. -/
def returnTypes : List (String × String) :=
  [("object", "NSDictionary"),
   ("Object", "NSDictionary"),
   ("number", "NSNumber"),
   ("Number", "NSNumber"),
   ("string", "NSString"),
   ("String", "NSString"),
   ("boolean", "BOOL"),
   ("Boolean", "BOOL"),
   (arrayMarker, "NSArray"),
   (voidMarker, "void")]

def arrayNames : List String := ["array", "Array"]

/-- Whether a type is an array: a list of types, or a name for any array. -/
def isArray : Value → Bool
  | .list _ | .tuple _ => true
  | .text name => arrayNames.contains name
  | _ => false

/-- The name under which a type stands in the table of properties. -/
def propertyKey? (type : Value) : Option String :=
  if isArray type then some arrayMarker
  else match type with
    | .map _ => some "object"
    | .text name => some name
    | type => match type.ownName? with
      | some (.text name) => some name
      | _ => none

def propertyType? (type : Value) : Option String :=
  (propertyKey? type).bind fun key => propertyTypes.lookup key

/-- The row of an argument type; a type together with the name of the argument comes first. -/
def argumentRow? (type : Value) (name : String) : Option String :=
  let named := match type with
    | .text t => (argumentTypes.lookup (t ++ " " ++ name)).or (argumentTypes.lookup t)
    | _ => none
  if named.isNone && isArray type then argumentTypes.lookup arrayMarker else named

def argumentType? (type : Value) (name modelType : String) : Option String :=
  (argumentRow? type name).map fun row => if row = modelTypeMark then modelType else row

/-- The name under which a type that is no model stands in the table of returns. -/
def returnKey? : Value → Option String
  | .null => some voidMarker
  | .list _ | .tuple _ => some arrayMarker
  | .map _ => some "object"
  | .text name => some (if arrayNames.contains name then arrayMarker else name)
  | _ => none

/-- The return type in a model and its class: an array if the method returns one in any case, the
class of the model itself, or the class of another exposed model; then the table decides. -/
def returnType? (r : Registry) (modelName modelClass : String) (returnsArray : Bool)
    (type : Value) : Option String :=
  if returnsArray then returnTypes.lookup arrayMarker
  else if type.isText modelName then some modelClass
  else match r.classOfValue? type with
    | some cls => some cls
    | none => (returnKey? type).bind fun key => returnTypes.lookup key

end RemoteBindings.ObjC
