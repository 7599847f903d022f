import RemoteBindings.Proofs.FirstOccurrence
import RemoteBindings.Proofs.Registry
import RemoteBindings.Proofs.Service

/-!
# What bindings consist of

The models of bindings are the described ones, each of them `finished` (`models_bindService`): its
accessors are grouped, its bindings are synthesized, and the classes of its neighbours in the graph
of relations are its includes (`includes_finished`).
-/

namespace RemoteBindings

open ObjC

variable {r : Registry} {models : Models} {e : String × Model} {service : Descriptor.Service}
  {classPrefix : String}

/-- Includes come of the relations alone. -/
theorem includeMap_mapValues (r : Registry) (models : Models) {f : Model → Model}
    (hf : ∀ model, (f model).relations = model.relations) :
    includeMap r (models.mapValues f) = includeMap r models := by
  have hn (source : String) (model : Model) :
      neighbours r (models.mapValues f) source (f model) = neighbours r models source model := by
    simp only [neighbours, Relation.targets, Entries.hasKey_mapValues, hf]
  have hg : relationGraph r (models.mapValues f) = relationGraph r models := by
    simp only [relationGraph, Entries.keys_mapValues]
    congr 1
    refine (List.flatMap_map _ _ _).trans (List.flatMap_congr fun e _ => ?_)
    exact congrArg _ (hn e.1 e.2)
  simp only [includeMap, Entries.keys_mapValues, hg]

/-- A model as it is rendered, if there are bindings. -/
def finished (r : Registry) (models : Models) (e : String × Model) : Model :=
  { bound r (groupScopes r e.2).1 with
    includes := (Entries.find? e.1 (includeMap r models)).getD [] }

theorem models_bindService (h : (bindService service classPrefix).fault = none) :
    (bindService service classPrefix).result.models =
      (describeModels service).1.map fun e =>
        (e.1, finished (registryOf service classPrefix) (describeModels service).1 e) := by
  have hb : boundModels (registryOf service classPrefix) (describe service classPrefix).1.models =
      (describeModels service).1.mapValues fun model =>
        bound (registryOf service classPrefix)
          (groupScopes (registryOf service classPrefix) model).1 := by
    rw [describe_models, boundModels, List.map_map]
    rfl
  have hi := includeMap_mapValues (registryOf service classPrefix) (describeModels service).1
    (f := fun model => bound (registryOf service classPrefix)
      (groupScopes (registryOf service classPrefix) model).1) fun _ => rfl
  rw [result_bindService h, hb, withIncludes, hi, Entries.mapValues, List.map_map]
  rfl

theorem values_bindService (h : (bindService service classPrefix).fault = none) :
    (bindService service classPrefix).result.models.values =
      (describeModels service).1.map
        (finished (registryOf service classPrefix) (describeModels service).1) := by
  rw [models_bindService h, Entries.values, List.map_map]
  rfl

/-- Each model of the bindings is a described one, finished. -/
theorem finished_of_bindService {b : Bindings}
    (h : (bindService service classPrefix).toExcept = .ok b) (he : e ∈ b.models) :
    ∃ d ∈ (describeModels service).1, d.1 = e.1 ∧
      e.2 = finished b.registry (describeModels service).1 d := by
  obtain ⟨hf, rfl⟩ := Run.toExcept_eq_ok_iff.mp h
  rw [models_bindService hf] at he
  obtain ⟨d, hd, rfl⟩ := List.mem_map.mp he
  rw [result_bindService hf]
  exact ⟨d, hd, rfl, rfl⟩

theorem selectors_finished (models : Models) (e : String × Model) :
    (finished r models e).selectors =
      e.2.selectors ++ e.2.methods.flatMap fun m => overloads r (named r e.2) m.listed := by
  have ho (m : Method) : overloads r (named r (groupScopes r e.2).1) m =
      overloads r (named r e.2) m := overloads_congr rfl rfl
  simp only [finished, bound, groupScopes_methods, List.flatMap_map, ho]
  rfl

theorem fault_bindService_iff :
    (bindService service classPrefix).fault = none ↔
      (∀ e ∈ (describeModels service).1,
        Supported (registryOf service classPrefix)
          (groupScopes (registryOf service classPrefix) e.2).1) ∧
      ∀ e ∈ (describeModels service).1, PropertiesWritable e.2 := by
  rw [fault_bindService, describe_models, List.forall_mem_map, List.forall_mem_map]
  rfl

theorem fault_generate :
    (generate service classPrefix).fault = none ↔
      (∀ e ∈ (describeModels service).1,
        Supported (registryOf service classPrefix)
          (groupScopes (registryOf service classPrefix) e.2).1) ∧
      ∀ e ∈ (describeModels service).1, PropertiesWritable e.2 := by
  rw [generate, Run.fault_bind, and_iff_left rfl, fault_bindService_iff]

theorem result_generate (h : (generate service classPrefix).fault = none) :
    (generate service classPrefix).result =
      Entries.ofList (writtenFiles (bindService service classPrefix).result.models.values) := by
  rw [generate, Run.result_bind h, renderFiles]

/-! ## Includes -/

theorem successors_relationGraph (hn : models.keys.Nodup) (he : e ∈ models) :
    (relationGraph r models).successors e.1 = (neighbours r models e.1 e.2).keys := by
  have hedges : (relationGraph r models).edges.filter (fun x => x.source == e.1) =
      (neighbours r models e.1 e.2).map fun x => ⟨e.1, x.1, x.2⟩ := by
    rw [relationGraph, List.filter_flatMap, Entries.flatMap_of_mem hn he]
    · refine List.filter_eq_self.mpr (List.forall_mem_map.mpr fun x _ => ?_)
      exact beq_self_eq_true e.1
    · intro x _ hx
      refine List.filter_eq_nil_iff.mpr (List.forall_mem_map.mpr fun y _ => ?_)
      simpa using hx
  rw [RelationGraph.successors, hedges, List.map_map]
  rfl

theorem mem_keys_neighbours_iff {source target : String} {model : Model} :
    target ∈ (neighbours r models source model).keys ↔
      ∃ relation ∈ model.relations.values, target ∈ relation.targets r models source := by
  rw [neighbours, keys_foldl_unlessKey, List.mem_eraseDups, Entries.keys, List.map_flatMap,
    List.mem_flatMap]
  simp only [List.map_map, Function.comp_def, List.map_id']

/-- Every neighbour is the declared name of a model. -/
theorem resolve?_of_mem_neighbours {source target : String} {model : Model}
    (h : target ∈ (neighbours r models source model).keys) : r.resolve? target = some target := by
  obtain ⟨relation, -, ht⟩ := mem_keys_neighbours_iff.mp h
  obtain ⟨n, -, hn⟩ := List.mem_filterMap.mp (List.mem_filter.mp ht).1
  exact Registry.resolve?_of_resolve? hn

/-- The includes of a model are the classes of its neighbours. -/
theorem includes_finished (hn : models.keys.Nodup) (he : e ∈ models) :
    (finished r models e).includes =
      (neighbours r models e.1 e.2).keys.map fun target => className target r.classPrefix := by
  have hk : e.1 ∈ models.keys := List.mem_map_of_mem he
  have hf : Entries.find? e.1 (includeMap r models) =
      some (((relationGraph r models).successors e.1).filterMap r.classOf?) :=
    Entries.find?_map_of_mem hk
  rw [finished, hf, Option.getD_some, successors_relationGraph hn he, ← List.filterMap_eq_map]
  refine List.filterMap_congr fun target ht => ?_
  rw [Registry.classOf?, resolve?_of_mem_neighbours ht]
  rfl

end RemoteBindings
