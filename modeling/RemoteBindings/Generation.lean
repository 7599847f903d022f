import RemoteBindings.Descriptor.Validation
import RemoteBindings.Model.Describe
import RemoteBindings.ObjC.Source
import RemoteBindings.Relation.Graph
import RemoteBindings.Scope.Grouping

/-!
# Generation of bindings

A generation goes from a service descriptor to Objective-C files in four phases: `describe` makes
the models and fixes the registry, then groups the scopes; `bindService` adds types and selectors;
and `generate` renders the files. Nothing is rendered if a model has a fault.
-/

namespace RemoteBindings

open Journal (Record)

/-- The models of a service, with the registry by which their types are resolved. -/
structure Bindings where
  models : Models
  registry : Registry

def phaseRecord (n : Nat) (message : String) : Record :=
  .event .progress ("PHASE " ++ toString n) message

def foundRecord (models : Models) : Record :=
  ⟨.progress, none, none, none, "  Found " ++ toString models.length ++ " exposed models"⟩

def describe (service : Descriptor.Service) (classPrefix : String) : Bindings × List Record :=
  let (models, skipped) := describeModels service
  let registry : Registry := ⟨models.keys, classPrefix⟩
  let (grouped, warnings) := groupAllScopes registry models
  (⟨grouped, registry⟩,
    phaseRecord 1 "Describing models..." :: skipped ++
      foundRecord models :: phaseRecord 2 "Reconstructing scopes..." :: warnings)

def bindService (service : Descriptor.Service) (classPrefix : String) : Run Bindings :=
  let (described, records) := describe service classPrefix
  let synthesized := ObjC.synthesizeAll described.registry described.models
  (synthesized.bind (⟨·, described.registry⟩) fun models =>
    { result := ⟨withIncludes described.registry models, described.registry⟩ }).after
    (records ++ [phaseRecord 3 "Synthesizing Objective-C types and selectors..."])

def generate (service : Descriptor.Service) (classPrefix : String) : Run (Entries String String) :=
  (bindService service classPrefix).bind (fun _ => []) fun b =>
    { result := ObjC.renderFiles b.models
      records := phaseRecord 4 "Rendering Objective-C sources..." :: ObjC.renderRecords b.models }

end RemoteBindings
