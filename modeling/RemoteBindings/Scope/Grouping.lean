import RemoteBindings.Journal.Record
import RemoteBindings.Model.Basic
import RemoteBindings.Model.Registry
import RemoteBindings.Scope.AccessorName

/-!
# Accessors grouped into scopes

`groupMethod` files one method under its scope if it is an accessor, and `groupScopes` does so for
all methods of a model. A scope is accepted when its target class is stated and exposed
(`targetOf`); a rejected scope stays in the map without a value, so it is reported once.
-/

namespace RemoteBindings

open Journal (Record)

/-- A copy of a method for which nothing has been synthesized. -/
def Method.fresh (m : Method) : Method := { m with generated := false }

/-- Why a scope gets no accessors. -/
inductive ScopeRejection where
  | noTarget
  | hiddenTarget (target : String)
deriving Repr, DecidableEq

def ScopeRejection.message : ScopeRejection → String
  | noTarget => "scope is missing its target class, its iOS code won't be generated"
  | hiddenTarget target =>
    "scope targets class \"" ++ target ++
      "\", which is not exposed via remoting; its iOS code won't be generated"

/-- The target class of a scope, which has to be stated and exposed. -/
def targetOf (r : Registry) (targets : Entries String (Option String)) (scope : String) :
    Except ScopeRejection String :=
  match Entries.find? scope targets with
  | none | some none | some (some "") => .error .noTarget
  | some (some target) =>
    if (r.resolve? target).isSome then .ok target else .error (.hiddenTarget target)

/-- The scope of an accessor that comes first, with the warning if it is rejected. -/
def openScope (r : Registry) (model : Model) (scope : String) : Option Scope × List Record :=
  match targetOf r model.scopeTargets scope with
  | .ok target => (some { targetClass := target }, [])
  | .error e => (none, [⟨.warning, none, some model.name, some scope, e.message⟩])

/-- The accessor as a method of its scope, whatever its flags were. -/
def scopeMethod (a : AccessorName) (m : Method) : Method :=
  { m.fresh with name := a.scope, deprecated := false, isInternal := false }

/-- Replaces the first `create` of a name. -/
def manyName (name : String) : String := Text.replaceFirst "create" "createMany" name

/-- The entries of an accessor: one that creates has a companion that creates many. -/
def scopeEntries (a : AccessorName) (m : Method) : List (String × Method) :=
  let single := (a.apiName, scopeMethod a m)
  if Text.contains a.apiName "create" then
    [single, (manyName a.apiName,
      { scopeMethod a m with name := manyName a.scope, returnsArray := true })]
  else [single]

/-- A method as it is listed, the scopes so far, and what was reported. -/
structure Grouped where
  method : Method
  /-- Whether the method is listed just as it was given. -/
  unchanged : Bool
  scopes : Entries String (Option Scope)
  records : List Record

def fileAccessor (model : Model) (a : AccessorName) (m : Method) (scope : Scope) :
    Scope × List Record :=
  let entries := scopeEntries a m
  ({ scope with methods := entries.foldl (fun acc e => Entries.put e.1 e.2 acc) scope.methods },
    entries.map fun e => ⟨.detail, some "SCOPE", some model.name, some a.scope, e.1⟩)

/-- Files a method under its scope among the scopes of the model. -/
def groupMethod (r : Registry) (model : Model) (m : Method) : Grouped :=
  match AccessorName.parse? m.name with
  | none => ⟨m, true, model.scopes, []⟩
  | some a =>
    let listed := { m.fresh with name := a.listedName }
    let (scope, warnings) := match Entries.find? a.scope model.scopes with
      | some known => (known, [])
      | none => openScope r model a.scope
    match scope with
    | none => ⟨listed, false, Entries.put a.scope none model.scopes, warnings⟩
    | some s =>
      let (filed, records) := fileAccessor model a listed s
      ⟨listed, false, Entries.put a.scope (some filed) model.scopes, warnings ++ records⟩

/-- Files some methods one after the other. -/
def groupMethods (r : Registry) (model : Model) :
    List Method → List Method × Entries String (Option Scope) × List Record
  | [] => ([], model.scopes, [])
  | m :: ms =>
    let g := groupMethod r model m
    let (listed, scopes, records) := groupMethods r { model with scopes := g.scopes } ms
    (g.method :: listed, scopes, g.records ++ records)

/-- The model with its scopes made anew from its methods. -/
def groupScopes (r : Registry) (model : Model) : Model × List Record :=
  let (methods, scopes, records) := groupMethods r { model with scopes := [] } model.methods
  ({ model with methods, scopes }, records)

def groupAllScopes (r : Registry) : Models → Models × List Record
  | [] => ([], [])
  | (key, model) :: rest =>
    let (grouped, records) := groupScopes r model
    let (others, more) := groupAllScopes r rest
    ((key, grouped) :: others, records ++ more)

end RemoteBindings
