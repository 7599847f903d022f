import RemoteBindings.Value.Equal

/-!
# Models of a service

A `Model` is a class of the service for which bindings are made. It starts out with what its
descriptor says, gains `scopes` when its relation accessors are grouped, and the fields from
`className` on when its bindings are synthesized.
-/

namespace RemoteBindings

/-- An argument that a remote method accepts. -/
structure Param where
  arg : String
  type : Value := .text "any"
  required : Bool := false
  /-- The part of the request that carries the argument. -/
  httpSource : Value := .null
  /-- Whether a function on the server computes the argument. -/
  serverComputed : Bool := false
  /-- The model whose class an object argument has. -/
  model : Option String := none

namespace Param

def isBody (p : Param) : Bool :=
  match p.httpSource with
  | .text source => source == "body"
  | _ => false

/-- The parts of a request that the server fills in itself. -/
def serverSources : List String := ["req", "res", "context"]

def isServerComputed (p : Param) : Bool :=
  p.serverComputed ||
    match p.httpSource with
    | .text source => serverSources.contains source
    | _ => false

/-- A body argument is required, whatever its flag says. -/
def isRequired (p : Param) : Bool := p.required || p.isBody

end Param

structure Return where
  arg : Option String := none
  type : Value := .null

structure Route where
  verb : String := "post"
  path : String := "/"
deriving Repr, DecidableEq

structure Method where
  name : String
  accepts : List Param := []
  returns : List Return := []
  isStatic : Bool := true
  http : Route := {}
  deprecated : Bool := false
  isInternal : Bool := false
  /-- Whether the method returns a collection, whatever its return type says. -/
  returnsArray : Bool := false
  /-- Whether a selector has been synthesized for the method. -/
  generated : Bool := false

/-- Of several returns the first counts; a method without one returns nothing. -/
def Method.result (m : Method) : Return :=
  match m.returns with
  | [] => {}
  | r :: _ => r

structure Property where
  name : String
  type : Value := .null
  isId : Bool := false
  generated : Bool := false
  required : Bool := false

structure Relation where
  name : String
  type : Option String := none
  model : Option String := none
  through : Option String := none
  foreignKey : Option String := none
deriving Repr, DecidableEq

/-- The accessors of a relation, by the names under which a client calls them. -/
structure Scope where
  targetClass : String
  methods : Entries String Method := []

/-- A property as it is declared in a class. -/
structure DeclaredProperty where
  name : String
  type : String
deriving Repr, DecidableEq

/-- An argument of a selector. -/
structure Argument where
  arg : String
  name : String
  type : String
  /-- The expression that is sent for the argument. -/
  value : String
  isBody : Bool := false
deriving Repr, DecidableEq

/-- What a callback receives. -/
inductive ReturnKind where
  | void
  | primitive
  /-- An instance of the class that the method belongs to. -/
  | model
  | collection
  | object
  /-- An instance of another generated class. -/
  | foreignModel
deriving Repr, DecidableEq

/-- A synthesized method of a repository class. -/
structure Selector where
  rawName : String
  name : String
  prototype : String
  returnArg : Option String
  returnType : String
  /-- The name of the type of the elements, if the method returns an array of a named type. -/
  elementType : String
  returnKind : ReturnKind
  paramAssignments : Option String
  bodyAssignment : Option String
  arguments : List Argument
  httpVerb : String
  httpPath : String
deriving Repr, DecidableEq

structure Model where
  name : String
  pluralName : String
  baseModel : Value
  properties : Entries String Property := []
  isIdGenerated : Bool := false
  relations : Entries String Relation := []
  acls : List Value := []
  validations : Value := .list []
  methods : List Method := []
  scopeTargets : Entries String (Option String) := []
  /-- The scopes by name; a rejected scope has no value. -/
  scopes : Entries String (Option Scope) := []
  className : String := ""
  repositoryName : String := ""
  baseClass : String := ""
  declaredProperties : List DeclaredProperty := []
  selectors : List Selector := []
  includes : List String := []

/-- The models of a service by name, in declaration order. -/
abbrev Models := Entries String Model

namespace Param

def same (p q : Param) : Bool :=
  p.arg == q.arg && p.type.same q.type && p.required == q.required &&
    p.httpSource.same q.httpSource && p.serverComputed == q.serverComputed && p.model == q.model

def sameAll : List Param → List Param → Bool
  | [], [] => true
  | p :: ps, q :: qs => p.same q && sameAll ps qs
  | _, _ => false

end Param

namespace Return

def same (r s : Return) : Bool := r.arg == s.arg && r.type.same s.type

def sameAll : List Return → List Return → Bool
  | [], [] => true
  | r :: rs, s :: ss => r.same s && sameAll rs ss
  | _, _ => false

end Return

/-- Whether two methods are the same apart from what has been synthesized for them. -/
def Method.same (m n : Method) : Bool :=
  m.name == n.name && Param.sameAll m.accepts n.accepts && Return.sameAll m.returns n.returns &&
    m.isStatic == n.isStatic && m.http == n.http && m.deprecated == n.deprecated &&
    m.isInternal == n.isInternal && m.returnsArray == n.returnsArray

end RemoteBindings
