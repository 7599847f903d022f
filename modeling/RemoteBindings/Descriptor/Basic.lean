import RemoteBindings.Value.Basic

/-!
# Service descriptors

A descriptor reports the remotable classes of a service: their shared constructors, properties,
settings, remote methods, and the target classes of their relation accessors. These types hold a
descriptor that has been validated. `extra` keeps the fields that the schema does not know, in the
order in which they were given.
-/

namespace RemoteBindings.Descriptor

abbrev Extra := Entries String Value

/-- The route of a remote method, as far as it is given. -/
structure Endpoint where
  verb : String
  path : Option String
  extra : Extra

/-- The route of the shared constructor; its path begins the path of every instance method. -/
structure Binding where
  verb : String
  path : String
  extra : Extra

structure Param where
  arg : String
  type : Value
  required : Bool
  /-- How a request carries the argument, or a function that computes it on the server. -/
  http : Value
  model : Option String
  description : Value
  extra : Extra

structure Return where
  arg : Option String
  type : Value
  root : Bool
  extra : Extra

structure Method where
  name : String
  accepts : List Param
  returns : List Return
  isStatic : Bool
  http : Option Endpoint
  deprecated : Bool
  isInternal : Bool
  description : Value
  extra : Extra

structure Ctor where
  accepts : List Param
  http : Binding
  extra : Extra

structure Property where
  type : Value
  id : Value
  generated : Bool
  required : Bool
  extra : Extra

structure Relation where
  type : Option String
  model : Option String
  through : Option String
  foreignKey : Option String
  extra : Extra

structure Settings where
  /-- The name of the base model, or the base constructor itself. -/
  base : Value
  relations : Entries String Relation
  acls : List Value
  validations : Value
  extra : Extra

structure ModelClass where
  name : String
  pluralName : Option String
  ctor : Option Ctor
  isUser : Bool
  properties : Entries String Property
  settings : Settings
  methods : List Method
  scopeTargets : Entries String (Option String)
  extra : Extra

structure Service where
  models : List ModelClass
  extra : Extra

/-- The part of a request that carries the argument, if it is stated. -/
def Param.httpSource (p : Param) : Value :=
  match p.http with
  | .map entries => (Value.field? "source" entries).getD .null
  | _ => .null

/-- Whether the server computes the argument by a function. -/
def Param.isComputed (p : Param) : Bool :=
  match p.http with
  | .function _ => true
  | _ => false

/-- The route of a shared constructor that states none. -/
def Binding.default : Binding := ⟨"get", "/:id", []⟩

def Settings.default : Settings := ⟨.null, [], [], .list [], []⟩

end RemoteBindings.Descriptor
