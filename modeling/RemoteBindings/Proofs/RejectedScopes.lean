import RemoteBindings.Proofs.Described

/-!
# Services without the accessors of rejected scopes

`Model.rejects` says whether a method is an accessor of a scope that ends up without a value, which
is so exactly if the target class of the scope is not stated or not exposed (`rejects_iff`). Leaving
these methods out of all classes of a service (`Descriptor.Service.withoutRejected`) leaves them out
of the models and changes nothing else in them (`describeModels_withoutRejected`).
-/

namespace RemoteBindings

open Descriptor (ModelClass Service)

variable {r : Registry} {model : Model} {service : Service} {classPrefix : String}

/-- Whether a name is that of an accessor whose scope is rejected in the model. -/
def Model.rejects (r : Registry) (model : Model) (name : String) : Bool :=
  match AccessorName.parse? name with
  | none => false
  | some a => match Entries.find? a.scope (groupScopes r model).1.scopes with
    | some none => true
    | _ => false

/-- The model without the accessors of its rejected scopes. -/
def Model.withoutRejected (r : Registry) (model : Model) : Model :=
  { model with methods := model.methods.filter fun m => !model.rejects r m.name }

/-- The class without the accessors of scopes that are rejected in its model. -/
def Descriptor.ModelClass.withoutRejected (r : Registry) (c : ModelClass) : ModelClass :=
  { c with
    methods := match c.ctor with
      | none => c.methods
      | some ctor => c.methods.filter fun m => !(Model.ofDescriptor c ctor).rejects r m.name }

/-- The service without the accessors of rejected scopes. -/
def Descriptor.Service.withoutRejected (service : Service) (classPrefix : String) : Service :=
  { service with
    models := service.models.map
      (ModelClass.withoutRejected (registryOf service classPrefix)) }

/-- A scope is rejected exactly if its target class is not stated or not exposed. -/
theorem rejects_iff {m : Method} (hm : m ∈ model.methods) :
    model.rejects r m.name = true ↔ ∃ a, AccessorName.parse? m.name = some a ∧
      isUnresolved r model.scopeTargets a.scope = true := by
  unfold Model.rejects
  cases ha : AccessorName.parse? m.name with
  | none => simp
  | some a =>
    obtain ⟨v, hf, hv⟩ := find?_groupScopes (r := r) hm ha
    cases v <;> simp [hf, ← hv]

/-! ## Descriptions -/

theorem ofDescriptor_withoutRejected {c : ModelClass} {ctor : Descriptor.Ctor}
    (hc : c.ctor = some ctor) :
    Model.ofDescriptor (c.withoutRejected r) ctor =
      (Model.ofDescriptor c ctor).withoutRejected r := by
  have hm : (c.withoutRejected r).methods =
      c.methods.filter fun m => !(Model.ofDescriptor c ctor).rejects r m.name := by
    simp only [ModelClass.withoutRejected, hc]
  have hf : ((c.withoutRejected r).methods.map (Method.ofDescriptor ctor)) =
      (Model.ofDescriptor c ctor).methods.filter
        fun m => !(Model.ofDescriptor c ctor).rejects r m.name := by
    rw [hm, Model.ofDescriptor, List.filter_map]
    rfl
  rw [Model.withoutRejected, ← hf]
  rfl

theorem changesModels_withoutRejected (r : Registry) :
    ChangesModels (ModelClass.withoutRejected r) (Model.withoutRejected r) where
  name _ := rfl
  isUser _ := rfl
  base _ := rfl
  model c := by
    have hctor : (c.withoutRejected r).ctor = c.ctor := rfl
    rw [hctor]
    cases hc : c.ctor with
    | none => rfl
    | some ctor => exact congrArg some (ofDescriptor_withoutRejected hc)

/-- The models of the service without the accessors are the models without them. -/
theorem describeModels_withoutRejected (service : Service) (classPrefix : String) :
    (describeModels (service.withoutRejected classPrefix)).1 =
      (describeModels service).1.mapValues
        (Model.withoutRejected (registryOf service classPrefix)) :=
  (changesModels_withoutRejected _).describeModels_map service

theorem registryOf_withoutRejected (service : Service) (classPrefix : String) :
    registryOf (service.withoutRejected classPrefix) classPrefix =
      registryOf service classPrefix :=
  (changesModels_withoutRejected _).registryOf_map service classPrefix

end RemoteBindings
