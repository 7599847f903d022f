import RemoteBindings.Generation
import RemoteBindings.Proofs.Scopes
import RemoteBindings.Proofs.Synthesis

/-!
# Services that can be bound

`describe` leaves models for which nothing has been synthesized (`Fresh`), each under its name.
`bindService_eq_ok_iff` gives the bindings of a service: every model is `bound`, and then it gets
its includes. `bindService_isOk_iff` says when there are any. What bindings hold is said by their
own parts: `classNames_of_bindService`, `selectors_of_bindService`, `fits_of_bindService`.
-/

namespace RemoteBindings

open ObjC

variable {r : Registry} {models : Models} {service : Descriptor.Service} {classPrefix : String}

/-- A model as it is described, under its name. -/
structure Fresh (name : String) (model : Model) : Prop where
  name : model.name = name
  unflagged : Unflagged model
  selectors : model.selectors = []

/-- The bindings of described models without their includes. -/
def boundModels (r : Registry) (models : Models) : Models := models.map fun e => (e.1, bound r e.2)

instance decidableExistsOk {ε α : Type} (x : Except ε α) (p : α → Prop) [DecidablePred p] :
    Decidable (∃ a, x = .ok a ∧ p a) :=
  match x with
  | .ok a => decidable_of_iff (p a) (by simp)
  | .error _ => isFalse (by simp)

instance decidableIsOk {ε α : Type} (x : Except ε α) : Decidable (∃ a, x = .ok a) :=
  match x with
  | .ok a => isTrue ⟨a, rfl⟩
  | .error _ => isFalse (by simp)

/-! ## Descriptions -/

theorem Fresh.ofDescriptor (c : Descriptor.ModelClass) (ctor : Descriptor.Ctor) :
    Fresh c.name (Model.ofDescriptor c ctor) :=
  ⟨rfl, fun _ hm => by obtain ⟨_, -, rfl⟩ := List.mem_map.mp hm; rfl, rfl⟩

theorem Fresh.groupScopes {name : String} {model : Model} (h : Fresh name model) (r : Registry) :
    Fresh name (groupScopes r model).1 := by
  refine ⟨h.name, fun m hm => ?_, h.selectors⟩
  rw [groupScopes_methods] at hm
  obtain ⟨n, hn, rfl⟩ := List.mem_map.mp hm
  unfold Method.listed
  split
  · exact h.unflagged n hn
  · rfl

theorem describeClass_eq_ok {byName : Entries String Descriptor.ModelClass}
    {c : Descriptor.ModelClass} {model : Model} (h : describeClass byName c = .ok model) :
    ∃ ctor, c.ctor = some ctor ∧ model = Model.ofDescriptor c ctor := by
  unfold describeClass at h
  split at h
  · cases h
  · split at h <;> cases h
    exact ⟨_, ‹_›, rfl⟩

/-- The keys of the models are kept apart, and each model is fresh under its key. -/
theorem describeInto_fresh {byName : Entries String Descriptor.ModelClass}
    (cs : List Descriptor.ModelClass) (models : Models) (hk : models.keys.Nodup)
    (hf : ∀ e ∈ models, Fresh e.1 e.2) :
    (describeInto byName cs models).1.keys.Nodup ∧
      ∀ e ∈ (describeInto byName cs models).1, Fresh e.1 e.2 := by
  induction cs generalizing models with
  | nil => exact ⟨hk, hf⟩
  | cons c cs ih =>
    unfold describeInto
    split
    · exact ih models hk hf
    · rename_i model hm
      obtain ⟨ctor, -, rfl⟩ := describeClass_eq_ok hm
      refine ih _ (Entries.nodup_keys_put hk) fun e he => ?_
      rcases Entries.mem_put he with rfl | he
      · exact Fresh.ofDescriptor c ctor
      · exact hf e he

theorem describeModels_fresh (service : Descriptor.Service) :
    (describeModels service).1.keys.Nodup ∧ ∀ e ∈ (describeModels service).1, Fresh e.1 e.2 :=
  describeInto_fresh service.models [] List.nodup_nil (by simp)

/-- The registry of a service: the names of its models. -/
def registryOf (service : Descriptor.Service) (classPrefix : String) : Registry :=
  ⟨(describeModels service).1.keys, classPrefix⟩

theorem describe_registry :
    (describe service classPrefix).1.registry = registryOf service classPrefix := rfl

theorem describe_models :
    (describe service classPrefix).1.models = (describeModels service).1.map fun e =>
      (e.1, (groupScopes (registryOf service classPrefix) e.2).1) :=
  groupAllScopes_models _

theorem keys_describe :
    (describe service classPrefix).1.models.keys = (describeModels service).1.keys := by
  rw [describe_models, Entries.keys, List.map_map]
  rfl

theorem nodup_keys_describe : (describe service classPrefix).1.models.keys.Nodup := by
  rw [keys_describe]
  exact (describeModels_fresh service).1

theorem fresh_describe : ∀ e ∈ (describe service classPrefix).1.models, Fresh e.1 e.2 := by
  rw [describe_models, List.forall_mem_map]
  exact fun e he => ((describeModels_fresh service).2 e he).groupScopes _

/-! ## Bindings -/

theorem fault_synthesizeAll (hu : ∀ e ∈ models, Unflagged e.2) :
    (synthesizeAll r models).fault = none ↔
      (∀ e ∈ models, Supported r e.2) ∧ ∀ e ∈ models, PropertiesWritable e.2 := by
  rw [synthesizeAll, Run.fault_each, ← forall₂_and]
  exact forall₂_congr fun e he => fault_synthesize (hu e he)

theorem result_synthesizeAll (hu : ∀ e ∈ models, Unflagged e.2)
    (h : (synthesizeAll r models).fault = none) :
    (synthesizeAll r models).result = boundModels r models := by
  rw [synthesizeAll, Run.fault_each] at h
  rw [synthesizeAll, Run.result_each h]
  refine List.map_congr_left fun e he => ?_
  rw [Run.result_map, result_synthesize (hu e he) (h e he)]

theorem fault_bindService :
    (bindService service classPrefix).fault = none ↔
      (∀ e ∈ (describe service classPrefix).1.models,
        Supported (registryOf service classPrefix) e.2) ∧
      ∀ e ∈ (describe service classPrefix).1.models, PropertiesWritable e.2 := by
  rw [← fault_synthesizeAll fun e he => (fresh_describe e he).unflagged]
  simp only [bindService, Run.fault_after, Run.fault_bind, and_true, describe_registry]

theorem result_bindService (h : (bindService service classPrefix).fault = none) :
    (bindService service classPrefix).result =
      ⟨withIncludes (registryOf service classPrefix)
          (boundModels (registryOf service classPrefix) (describe service classPrefix).1.models),
        registryOf service classPrefix⟩ := by
  have hu : ∀ e ∈ (describe service classPrefix).1.models, Unflagged e.2 := fun e he =>
    (fresh_describe e he).unflagged
  have hs := (fault_synthesizeAll hu).mpr (fault_bindService.mp h)
  simp only [bindService, Run.result_after, describe_registry]
  rw [Run.bind_of_fault_eq_none hs, Run.result_after, result_synthesizeAll hu hs]

/-- A service has bindings if each of its models is supported and can be reported, and then they
are the bound models with their includes. -/
theorem bindService_eq_ok_iff {b : Bindings} :
    (bindService service classPrefix).toExcept = .ok b ↔
      ((∀ e ∈ (describe service classPrefix).1.models,
          Supported (registryOf service classPrefix) e.2) ∧
        ∀ e ∈ (describe service classPrefix).1.models, PropertiesWritable e.2) ∧
      b = ⟨withIncludes (registryOf service classPrefix)
          (boundModels (registryOf service classPrefix) (describe service classPrefix).1.models),
        registryOf service classPrefix⟩ := by
  rw [Run.toExcept_eq_ok_iff, ← fault_bindService]
  exact and_congr_right fun h => by rw [result_bindService h, eq_comm]

/-- Each model of the bindings is a described one that has been bound. -/
theorem mem_models_of_bindService {b : Bindings} {e : String × Model}
    (h : (bindService service classPrefix).toExcept = .ok b) (he : e ∈ b.models) :
    ∃ model includes, (e.1, model) ∈ (describe service classPrefix).1.models ∧
      e.2 = { bound b.registry model with includes } := by
  obtain ⟨-, rfl⟩ := bindService_eq_ok_iff.mp h
  obtain ⟨_, hb, rfl⟩ := List.mem_map.mp he
  obtain ⟨e, hm, rfl⟩ := List.mem_map.mp hb
  exact ⟨e.2, _, hm, rfl⟩

theorem names_of_bindService {b : Bindings} {e : String × Model}
    (h : (bindService service classPrefix).toExcept = .ok b) (he : e ∈ b.models) :
    e.2.name = e.1 ∧ e.2.className = className e.1 b.registry.classPrefix := by
  obtain ⟨model, includes, hm, he⟩ := mem_models_of_bindService h he
  rw [he, ← (fresh_describe _ hm).name]
  exact ⟨rfl, rfl⟩

theorem registry_of_bindService {b : Bindings}
    (h : (bindService service classPrefix).toExcept = .ok b) :
    b.registry = registryOf service classPrefix := by
  obtain ⟨-, rfl⟩ := bindService_eq_ok_iff.mp h
  rfl

theorem keys_of_bindService {b : Bindings}
    (h : (bindService service classPrefix).toExcept = .ok b) :
    b.models.keys = b.registry.names := by
  obtain ⟨-, rfl⟩ := bindService_eq_ok_iff.mp h
  simp only [withIncludes, boundModels, Entries.keys, List.map_map]
  exact keys_describe

/-- The generated classes are those of the registry. -/
theorem classNames_of_bindService {b : Bindings}
    (h : (bindService service classPrefix).toExcept = .ok b) :
    b.models.values.map Model.className =
      b.registry.names.map fun n => className n b.registry.classPrefix := by
  rw [← keys_of_bindService h, Entries.values, Entries.keys, List.map_map, List.map_map]
  exact List.map_congr_left fun e he => (names_of_bindService h he).2

/-- The selectors of a model in the bindings are the overloads of its methods in turn. -/
theorem selectors_of_bindService {b : Bindings} {e : String × Model}
    (h : (bindService service classPrefix).toExcept = .ok b) (he : e ∈ b.models) :
    e.2.selectors = e.2.methods.flatMap (overloads b.registry e.2) := by
  obtain ⟨model, includes, hm, he⟩ := mem_models_of_bindService h he
  have hs : model.selectors = [] := (fresh_describe _ hm).selectors
  rw [he]
  simp only [bound, hs, List.nil_append, List.flatMap_map]
  refine List.flatMap_congr fun m _ => ?_
  rw [overloads_flagged]
  exact overloads_congr rfl rfl

/-- The methods of a model in the bindings fit, unless they need no selectors. -/
theorem fits_of_bindService {b : Bindings} {e : String × Model}
    (h : (bindService service classPrefix).toExcept = .ok b) (he : e ∈ b.models) {m : Method}
    (hm : m ∈ e.2.methods) (hu : m.name ∉ unboundMethods) : Fits b.registry e.2 m := by
  obtain ⟨model, includes, hd, he⟩ := mem_models_of_bindService h he
  obtain ⟨⟨hs, -⟩, rfl⟩ := bindService_eq_ok_iff.mp h
  rw [he] at hm ⊢
  obtain ⟨n, hn, rfl⟩ := List.mem_map.mp hm
  have hf := (fits_congr rfl rfl).mp ((hs _ hd).methods n hn hu)
  exact ⟨hf.arguments, hf.oneBody, hf.result⟩

/-- A service has bindings exactly if each of its models is supported, and no type of a property
that is to be declared holds an integer too long for the report. -/
theorem bindService_isOk_iff (service : Descriptor.Service) (classPrefix : String) :
    (∃ b, (bindService service classPrefix).toExcept = .ok b) ↔
      (∀ e ∈ (describe service classPrefix).1.models,
        Supported (describe service classPrefix).1.registry e.2) ∧
      ∀ e ∈ (describe service classPrefix).1.models, PropertiesWritable e.2 := by
  simp only [bindService_eq_ok_iff, exists_and_left, exists_eq, and_true, describe_registry]

/-- The raw description of a class with the base `Model`, as an item of a service. -/
def rawClass (name : String) (fields : List (Value × Value)) : Value :=
  .map ([(.text "name", .text name), (.text "ctor", .map []),
    (.text "settings", .map [(.text "base", .text "Model")])] ++ fields)

/-- A validated class with the base `Model`. -/
def plainClass (name : String) (methods : List Descriptor.Method) : Descriptor.ModelClass where
  name
  pluralName := none
  ctor := some ⟨[], .default, []⟩
  isUser := false
  properties := []
  settings := { Descriptor.Settings.default with base := .text "Model" }
  methods
  scopeTargets := []
  extra := []

/-- A list type with the least integer that is too long. The class is supported, for any list is an
array there, but the report of the property has no text. -/
theorem supported_without_bindings :
    ∃ service, Descriptor.build (.list [rawClass "Note"
        [(.text "properties", .map [(.text "sizes", .list [.int (Nat.pow 10 4300)])])]]) =
        .ok service ∧
      ¬ ((∃ b, (bindService service "").toExcept = .ok b) ↔
        ∀ e ∈ (describe service "").1.models,
          Supported (describe service "").1.registry e.2) := by
  decide +kernel

end RemoteBindings
