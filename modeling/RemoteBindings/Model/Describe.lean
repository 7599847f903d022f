import RemoteBindings.Inflection.Plural
import RemoteBindings.Journal.Record
import RemoteBindings.Model.Ancestry
import RemoteBindings.Model.Route

/-!
# Models from a descriptor

`describeModels` makes a `Model` of every class that has a shared constructor and is no User model,
in declaration order, and reports the classes that it skips.
-/

namespace RemoteBindings

open Journal (Record)

def Param.ofDescriptor (p : Descriptor.Param) : Param :=
  { arg := p.arg, type := p.type, required := p.required, httpSource := p.httpSource,
    serverComputed := p.isComputed, model := p.model }

/-- An instance method accepts the arguments of the constructor first: they address the instance. -/
def Method.ofDescriptor (ctor : Descriptor.Ctor) (m : Descriptor.Method) : Method :=
  let own := m.accepts.map Param.ofDescriptor
  { name := m.name
    accepts := if m.isStatic then own else ctor.accepts.map Param.ofDescriptor ++ own
    returns := m.returns.map fun r => { arg := r.arg, type := r.type }
    isStatic := m.isStatic
    http := routeOf ctor.http.path m
    deprecated := m.deprecated
    isInternal := m.isInternal }

/-- The place of a property among the ids: a number orders composite ids, any other flag is one. -/
def idPosition : Value → Int
  | .int n => n
  | _ => 1

/-- The property with the least id position, the first of several. -/
def firstId : List Descriptor.Property → Option Descriptor.Property
  | [] => none
  | p :: ps =>
    if p.id.isTruthy then
      match firstId ps with
      | none => some p
      | some q => if idPosition p.id ≤ idPosition q.id then some p else some q
    else firstId ps

/-- Whether the server generates the id: the flag of the first id property. -/
def generatesId (properties : Entries String Descriptor.Property) : Bool :=
  match firstId properties.values with
  | none => false
  | some p => p.generated

/-- A base that is a constructor has no class to extend. -/
def baseOf : Value → Value
  | .function _ => .text ""
  | v => v

def pluralNameOf (c : Descriptor.ModelClass) : String :=
  match c.pluralName with
  | none | some "" => Inflection.plural c.name
  | some name => name

def Model.ofDescriptor (c : Descriptor.ModelClass) (ctor : Descriptor.Ctor) : Model :=
  { name := c.name
    pluralName := pluralNameOf c
    baseModel := baseOf c.settings.base
    properties := c.properties.map fun (name, p) =>
      (name, { name, type := p.type, isId := p.id.isTruthy, generated := p.generated,
               required := p.required })
    isIdGenerated := generatesId c.properties
    relations := c.settings.relations.map fun (name, r) =>
      (name, { name, type := r.type, model := r.model, through := r.through,
               foreignKey := r.foreignKey })
    acls := c.settings.acls
    validations := c.settings.validations
    methods := c.methods.map (Method.ofDescriptor ctor)
    scopeTargets := c.scopeTargets }

def skipRecord (name reason : String) : Record := ⟨.progress, some "SKIP", some name, none, reason⟩

/-- The model of a class, or the record of its omission. -/
def describeClass (byName : Entries String Descriptor.ModelClass) (c : Descriptor.ModelClass) :
    Except Record Model :=
  match c.ctor with
  | none => .error (skipRecord c.name "not a LoopBack model")
  | some ctor =>
    if isUserModel byName c then .error (skipRecord c.name "the User model is provided by the SDK")
    else .ok (Model.ofDescriptor c ctor)

/-- Adds the models of some classes to a map of models. -/
def describeInto (byName : Entries String Descriptor.ModelClass) :
    List Descriptor.ModelClass → Models → Models × List Record
  | [], models => (models, [])
  | c :: cs, models =>
    match describeClass byName c with
    | .error r =>
      let (result, records) := describeInto byName cs models
      (result, r :: records)
    | .ok m => describeInto byName cs (Entries.put c.name m models)

def describeModels (s : Descriptor.Service) : Models × List Record :=
  describeInto (classesByName s.models) s.models []

end RemoteBindings
