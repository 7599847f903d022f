import RemoteBindings.Proofs.Bindings
import RemoteBindings.Proofs.Files
import RemoteBindings.Proofs.Keywords
import RemoteBindings.Proofs.RejectedScopes
import RemoteBindings.Proofs.Replacement

/-!
# Code of rejected scopes

An accessor of a rejected scope stays in the list of methods under its listed name, and so it takes
part in the synthesis like any other method: its types have to fit, and then it has a selector
(`overloads_listed_ne_nil`). `generate_withoutRejected_iff` compares the generation for a service
with the one for the service without these accessors. On success the two differ in the repository of
each model that has one, and so come to the same only where another model writes these files again
(`Concealed`).
-/

namespace RemoteBindings

open ObjC

variable {r : Registry} {model : Model} {m : Method} {service : Descriptor.Service}
  {classPrefix : String}

/-! ## Selectors of rejected accessors -/

/-- The listed name of an accessor holds an underscore, also without an instance mark. -/
theorem underscore_mem_listedName (a : AccessorName) :
    '_' ∈ a.listedName.toList ∧ '_' ∈ (plainMethodName a.listedName).toList := by
  have h : '_' ∈ a.listedName.toList := by
    simp [AccessorName.listedName]
  refine ⟨h, ?_⟩
  rw [plainMethodName, Text.replaceFirst, String.toList_ofList]
  exact Text.mem_replaceFirstChars (by decide +kernel) h

theorem listed_of_rejects (h : model.rejects r m.name = true) :
    ∃ a : AccessorName, m.listed.name = a.listedName := by
  unfold Model.rejects at h
  unfold Method.listed
  cases ha : AccessorName.parse? m.name with
  | none => simp [ha] at h
  | some a => exact ⟨a, rfl⟩

theorem listed_not_unbound (h : model.rejects r m.name = true) :
    m.listed.name ∉ unboundMethods := by
  have hu : ∀ n ∈ unboundMethods, '_' ∉ n.toList := by decide +kernel
  obtain ⟨a, ha⟩ := listed_of_rejects h
  rw [ha]
  exact fun hm => hu _ hm (underscore_mem_listedName a).1

/-- An accessor that fits has a selector, which is not withheld. -/
theorem overloads_listed_ne_nil {model' : Model} (h : model.rejects r m.name = true)
    (hf : Fits r model' m.listed) : overloads r model' m.listed ≠ [] := by
  have hw : ∀ n ∈ withheldNames, '_' ∉ n.toList := by decide +kernel
  obtain ⟨a, ha⟩ := listed_of_rejects h
  have hc : callName m.listed.name (labels .requiredOnly m.listed) ∉ withheldNames := by
    obtain ⟨x, hx⟩ := callName_eq m.listed.name (labels .requiredOnly m.listed)
    intro hm
    refine hw _ hm ?_
    rw [hx, String.toList_append, String.toList_append, ha]
    exact List.mem_append_left _ (List.mem_append_left _ (underscore_mem_listedName a).2)
  obtain ⟨s, hs⟩ := exists_selector hf (listed_not_unbound h) hc
  exact List.ne_nil_of_mem (mem_overloads.mpr ⟨.requiredOnly, by simp, hs⟩)

/-! ## Faults -/

theorem supported_groupScopes_iff :
    Supported r (groupScopes r model).1 ↔
      (model.baseModel = .text "Model" ∨ model.baseModel = .text "PersistedModel") ∧
      (∀ p ∈ model.properties, p.1 ≠ "id" → (propertyType? p.2.type).isSome) ∧
      ∀ m ∈ model.methods, m.listed.name ∉ unboundMethods →
        Fits r (named r model) m.listed := by
  have hm : (∀ m ∈ (groupScopes r model).1.methods, m.name ∉ unboundMethods →
        Fits r (named r (groupScopes r model).1) m) ↔
      ∀ m ∈ model.methods, m.listed.name ∉ unboundMethods →
        Fits r (named r model) m.listed := by
    rw [groupScopes_methods, List.forall_mem_map]
    exact forall₂_congr fun m _ => imp_congr_right fun _ => fits_congr rfl rfl
  rw [← hm]
  exact ⟨fun h => ⟨h.base, h.properties, h.methods⟩, fun ⟨hb, hp, hm⟩ => ⟨hb, hp, hm⟩⟩

/-- A model is supported if it is without its rejected accessors and they fit as well. -/
theorem supported_groupScopes_withoutRejected :
    Supported r (groupScopes r model).1 ↔
      Supported r (groupScopes r (model.withoutRejected r)).1 ∧
        ∀ m ∈ model.methods, model.rejects r m.name = true → Fits r (named r model) m.listed := by
  have hf (m : Method) :
      Fits r (named r (model.withoutRejected r)) m ↔ Fits r (named r model) m :=
    fits_congr rfl rfl
  simp only [supported_groupScopes_iff, hf]
  simp only [Model.withoutRejected, List.mem_filter, Bool.not_eq_true']
  constructor
  · rintro ⟨hb, hp, hm⟩
    exact ⟨⟨hb, hp, fun m h => hm m h.1⟩, fun m h hr => hm m h (listed_not_unbound hr)⟩
  · rintro ⟨⟨hb, hp, hk⟩, hr⟩
    refine ⟨hb, hp, fun m hm hu => ?_⟩
    cases h : model.rejects r m.name with
    | true => exact hr m hm h
    | false => exact hk m ⟨hm, h⟩ hu

/-! ## Results -/

theorem values_bindService_withoutRejected
    (h : (bindService (service.withoutRejected classPrefix) classPrefix).fault = none) :
    (bindService (service.withoutRejected classPrefix) classPrefix).result.models.values =
      (describeModels service).1.map fun e =>
        finished (registryOf service classPrefix) (describeModels service).1
          (e.1, e.2.withoutRejected (registryOf service classPrefix)) := by
  rw [values_bindService h, registryOf_withoutRejected, describeModels_withoutRejected,
    Entries.mapValues, List.map_map]
  refine List.map_congr_left fun e _ => ?_
  have hi := includeMap_mapValues (registryOf service classPrefix) (describeModels service).1
    (f := Model.withoutRejected (registryOf service classPrefix)) fun _ => rfl
  rw [Function.comp_apply, finished, finished, ← hi]
  rfl

/-- The selectors of a model are those without the rejected accessors, and theirs. -/
theorem selectors_finished_perm (models : Models) (e : String × Model) :
    ((finished r models (e.1, e.2.withoutRejected r)).selectors ++
        (e.2.methods.filter fun m => e.2.rejects r m.name).flatMap fun m =>
          overloads r (named r e.2) m.listed).Perm
      (finished r models e).selectors := by
  have ho (m : Method) : overloads r (named r (e.2.withoutRejected r)) m =
      overloads r (named r e.2) m := overloads_congr rfl rfl
  have hp := List.filter_append_perm (fun m : Method => !e.2.rejects r m.name) e.2.methods
  simp only [Bool.not_not] at hp
  rw [selectors_finished, selectors_finished, List.append_assoc]
  refine List.Perm.append_left _ ?_
  simp only [ho]
  rw [Model.withoutRejected, ← List.flatMap_append]
  exact hp.flatMap_right _

/-! ## Two runs -/

/-- Both runs stop, or both end with the same result. -/
structure SameOutcome {α : Type} (x y : Run α) : Prop where
  fault : x.fault = none ↔ y.fault = none
  result : x.fault = none → x.result = y.result

instance {α : Type} [DecidableEq α] (x y : Run α) : Decidable (SameOutcome x y) :=
  decidable_of_iff (_ ∧ _) ⟨fun ⟨hf, hr⟩ => ⟨hf, hr⟩, fun h => ⟨h.fault, h.result⟩⟩

def modelClass (r : Registry) (e : String × Model) : String := className e.2.name r.classPrefix

/-- The header of a model's class, as it is rendered. -/
def headerOf (r : Registry) (models : Models) (e : String × Model) : String :=
  modelHeader (referencedClasses (models.map (modelClass r)) (finished r models e))
    (finished r models e)

/-- The files of a model that change with its rejected accessors are all written again by the later
models, or by the header that imports all. The header of the class may also be the same. -/
structure Concealed (r : Registry) (models : Models) (e : String × Model) (later : Models) :
    Prop where
  repository : modelClass r e ∈ later.map (modelClass r) ∨
    modelClass r e ++ "Repository" ∈ later.map (modelClass r)
  header : modelClass r e ∈ later.map (modelClass r) ∨
    (∃ c ∈ later.map (modelClass r), c ++ "Repository" = modelClass r e) ∨
    modelClass r e = "LoopbackModelImport" ∨
    headerOf r models e = headerOf r models (e.1, e.2.withoutRejected r)

theorem mentioned_withoutRejected_subset (models : Models) (e : String × Model) :
    mentioned (finished r models (e.1, e.2.withoutRejected r)) ⊆
      mentioned (finished r models e) := by
  intro c hc
  rcases List.mem_append.mp hc with hc | hc
  · exact List.mem_append_left _ hc
  · obtain ⟨s, hs, hc⟩ := List.mem_flatMap.mp hc
    have hs := (selectors_finished_perm models e).subset (List.mem_append_left _ hs)
    exact List.mem_append_right _ (List.mem_flatMap.mpr ⟨s, hs, hc⟩)

theorem repositoryHeader_finished_ne (models : Models) {e : String × Model}
    (generated : List String)
    (hr : ∃ m ∈ e.2.methods, e.2.rejects r m.name = true)
    (hf : ∀ m ∈ e.2.methods, e.2.rejects r m.name = true → Fits r (named r e.2) m.listed) :
    repositoryHeader (referencedClasses generated (finished r models e)) (finished r models e) ≠
      repositoryHeader
        (referencedClasses generated (finished r models (e.1, e.2.withoutRejected r)))
        (finished r models (e.1, e.2.withoutRejected r)) := by
  obtain ⟨m, hm, hrej⟩ := hr
  obtain ⟨s, hs⟩ := List.exists_mem_of_ne_nil _ (overloads_listed_ne_nil hrej (hf m hm hrej))
  refine repositoryHeader_ne nodup_referencedClasses (fun c hc => ?_)
    (selectors_finished_perm models e) (List.ne_nil_of_mem (List.mem_flatMap.mpr
      ⟨m, List.mem_filter.mpr ⟨hm, hrej⟩, hs⟩)) _ _
  obtain ⟨hm, hg, hne⟩ := mem_referencedClasses.mp hc
  exact mem_referencedClasses.mpr ⟨mentioned_withoutRejected_subset models e hm, hg, hne⟩

/-- The files of a model with rejected accessors come to the same without them exactly if it is
concealed. -/
theorem forall_find?_modelFiles_iff_concealed {models later : Models} {e : String × Model}
    (hr : ∃ m ∈ e.2.methods, e.2.rejects r m.name = true)
    (hf : ∀ m ∈ e.2.methods, e.2.rejects r m.name = true → Fits r (named r e.2) m.listed) :
    (∀ k ∉ laterNames (later.map (modelClass r)),
      Entries.find? k (modelFiles (models.map (modelClass r)) (finished r models e)).reverse =
        Entries.find? k (modelFiles (models.map (modelClass r))
          (finished r models (e.1, e.2.withoutRejected r))).reverse) ↔
      Concealed r models e later := by
  refine (forall_find?_modelFiles_iff (by rfl) (by rfl)).trans ?_
  have hne := repositoryHeader_finished_ne models (models.map (modelClass r)) hr hf
  constructor
  · rintro ⟨hh, hrep, -⟩
    refine ⟨repositoryHeader_mem_laterNames.mp (by_contra fun hn => hne (hrep hn)), ?_⟩
    by_cases hl : modelClass r e ++ ".h" ∈ laterNames (later.map (modelClass r))
    · rcases header_mem_laterNames.mp hl with hl | hl | hl
      · exact .inl hl
      · exact .inr (.inl hl)
      · exact .inr (.inr (.inl hl))
    · exact .inr (.inr (.inr (hh hl)))
  · rintro ⟨hrep, hhead⟩
    have hmem := repositoryHeader_mem_laterNames.mpr hrep
    refine ⟨fun hn => ?_, fun hn => absurd hmem hn,
      fun hn => absurd (repositorySource_mem_laterNames hmem) hn⟩
    rcases hhead with hl | hl | hl | hl
    · exact absurd (header_mem_laterNames.mpr (.inl hl)) hn
    · exact absurd (header_mem_laterNames.mpr (.inr (.inl hl))) hn
    · exact absurd (header_mem_laterNames.mpr (.inr (.inr hl))) hn
    · exact hl

/-- The generation has no fault if it has none without the rejected accessors and they fit. -/
theorem fault_generate_withoutRejected :
    (generate service classPrefix).fault = none ↔
      (generate (service.withoutRejected classPrefix) classPrefix).fault = none ∧
        ∀ e ∈ (describeModels service).1, ∀ m ∈ e.2.methods,
          e.2.rejects (registryOf service classPrefix) m.name = true →
            Fits (registryOf service classPrefix) (named (registryOf service classPrefix) e.2)
              m.listed := by
  have h' : (generate (service.withoutRejected classPrefix) classPrefix).fault = none ↔
      (∀ e ∈ (describeModels service).1, Supported (registryOf service classPrefix)
        (groupScopes (registryOf service classPrefix)
          (e.2.withoutRejected (registryOf service classPrefix))).1) ∧
      ∀ e ∈ (describeModels service).1, PropertiesWritable e.2 := by
    rw [fault_generate, registryOf_withoutRejected, describeModels_withoutRejected,
      Entries.mapValues, List.forall_mem_map, List.forall_mem_map]
    rfl
  rw [h', fault_generate]
  constructor
  · rintro ⟨hs, hw⟩
    have hs := fun e he => supported_groupScopes_withoutRejected.mp (hs e he)
    exact ⟨⟨fun e he => (hs e he).1, hw⟩, fun e he => (hs e he).2⟩
  · rintro ⟨⟨hs, hw⟩, hf⟩
    exact ⟨fun e he => supported_groupScopes_withoutRejected.mpr ⟨hs e he, hf e he⟩, hw⟩

theorem writtenFiles_finished (models : Models) {f : String × Model → Model}
    (hf : ∀ e, (f e).className = modelClass r e) :
    writtenFiles (models.map f) =
      models.flatMap (fun e => modelFiles (models.map (modelClass r)) (f e)) ++
        [(aggregateName, aggregateHeader (models.map f))] := by
  have hg : (models.map f).map Model.className = models.map (modelClass r) := by
    rw [List.map_map]
    exact List.map_congr_left fun e _ => hf e
  rw [writtenFiles, hg, List.flatMap_map]

/-- On success the rejected accessors do not show in the files if each model that has one is
concealed. -/
theorem result_generate_withoutRejected
    (h : (generate service classPrefix).fault = none)
    (h' : (generate (service.withoutRejected classPrefix) classPrefix).fault = none) :
    (generate service classPrefix).result =
        (generate (service.withoutRejected classPrefix) classPrefix).result ↔
      ∀ e later, e :: later <:+ (describeModels service).1 →
        (∃ m ∈ e.2.methods, e.2.rejects (registryOf service classPrefix) m.name = true) →
          Concealed (registryOf service classPrefix) (describeModels service).1 e later := by
  have hb := ((Run.fault_bind _ _ _).mp h).1
  have hb' := ((Run.fault_bind _ _ _).mp h').1
  have hfits := (fault_generate_withoutRejected.mp h).2
  rw [result_generate h, result_generate h', values_bindService hb,
    values_bindService_withoutRejected hb']
  generalize registryOf service classPrefix = r at hfits ⊢
  generalize (describeModels service).1 = models at hfits ⊢
  have hagg : aggregateHeader (models.map fun e =>
      finished r models (e.1, e.2.withoutRejected r)) =
      aggregateHeader (models.map (finished r models)) := by
    rw [aggregateHeader, aggregateHeader, List.flatMap_map, List.flatMap_map]
    rfl
  rw [writtenFiles_finished (r := r) models fun _ => rfl,
    writtenFiles_finished (r := r) models fun _ => rfl, hagg]
  have hk (e : String × Model) : Entries.keys (modelFiles (models.map (modelClass r))
        (finished r models e)) = Entries.keys (modelFiles (models.map (modelClass r))
        (finished r models (e.1, e.2.withoutRejected r))) := by
    rw [keys_modelFiles, keys_modelFiles]
    rfl
  rw [Entries.ofList_flatMap_eq_iff _ hk]
  have hl (later : Models) : Entries.keys (later.flatMap (fun e =>
      modelFiles (models.map (modelClass r)) (finished r models e)) ++
        [(aggregateName, aggregateHeader (models.map (finished r models)))]) =
      laterNames (later.map (modelClass r)) := by
    rw [Entries.keys_append, Entries.keys, List.map_flatMap, laterNames, List.flatMap_map]
    exact congrArg (· ++ [aggregateName]) (List.flatMap_congr fun e _ => keys_modelFiles)
  simp only [hl]
  refine forall₃_congr fun e later hs => ?_
  have hmem : e ∈ models := hs.subset List.mem_cons_self
  by_cases hr : ∃ m ∈ e.2.methods, e.2.rejects r m.name = true
  · rw [forall_find?_modelFiles_iff_concealed hr (hfits e hmem)]
    exact (true_imp_iff.symm.trans (imp_congr_left (iff_true_intro hr)).symm)
  · have he : e.2.withoutRejected r = e.2 := by
      have hk : e.2.methods.filter (fun m => !e.2.rejects r m.name) = e.2.methods :=
        List.filter_eq_self.mpr fun m hm => by
          simpa using fun h => hr ⟨m, hm, h⟩
      rw [Model.withoutRejected, hk]
    simp only [he, implies_true, true_iff]
    exact fun h => absurd h hr

/-- The accessors of rejected scopes leave no trace in a generation exactly if there is a fault
apart from them, or all of them fit and each model that has one is concealed. -/
theorem generate_withoutRejected_iff (service : Descriptor.Service) (classPrefix : String) :
    SameOutcome (generate service classPrefix)
        (generate (service.withoutRejected classPrefix) classPrefix) ↔
      (generate (service.withoutRejected classPrefix) classPrefix).fault ≠ none ∨
      ∀ e later, e :: later <:+ (describeModels service).1 →
        ∀ m ∈ e.2.methods, e.2.rejects (registryOf service classPrefix) m.name = true →
          Fits (registryOf service classPrefix) (named (registryOf service classPrefix) e.2)
              m.listed ∧
            Concealed (registryOf service classPrefix) (describeModels service).1 e later := by
  by_cases h' : (generate (service.withoutRejected classPrefix) classPrefix).fault = none
  · simp only [h', ne_eq, not_true_eq_false, false_or]
    constructor
    · rintro ⟨hfault, hresult⟩ e later hs m hm hr
      have h := hfault.mpr h'
      have hc := (result_generate_withoutRejected h h').mp (hresult h)
      exact ⟨(fault_generate_withoutRejected.mp h).2 e (hs.subset List.mem_cons_self) m hm hr,
        hc e later hs ⟨m, hm, hr⟩⟩
    · intro hall
      have h : (generate service classPrefix).fault = none := by
        refine fault_generate_withoutRejected.mpr ⟨h', fun e he m hm hr => ?_⟩
        obtain ⟨before, later, hs⟩ := List.append_of_mem he
        exact (hall e later ⟨before, hs.symm⟩ m hm hr).1
      refine ⟨iff_of_true h h', fun _ => (result_generate_withoutRejected h h').mpr ?_⟩
      rintro e later hs ⟨m, hm, hr⟩
      exact (hall e later hs m hm hr).2
  · refine iff_of_true ⟨iff_of_false (fun h => ?_) h', fun h => ?_⟩ (.inl h')
    · exact h' (fault_generate_withoutRejected.mp h).1
    · exact absurd (fault_generate_withoutRejected.mp h).1 h'

/-- The accessor of a scope without a target class has a selector in the files, and if it takes an
argument of a type that has no counterpart, there are no files at all. -/
theorem generate_ne_withoutRejected :
    [[], [Value.map [(.text "arg", .text "at"), (.text "type", .text "Moment")]]].Forall fun args =>
      ∃ service, Descriptor.build (.list [rawClass "Note" [(.text "methods", .list [.map
          [(.text "name", .text "prototype.__get__tags"), (.text "isStatic", .bool true),
            (.text "accepts", .list args)]])]]) = .ok service ∧
        ¬ SameOutcome (generate service "") (generate (service.withoutRejected "") "") := by
  decide +kernel

end RemoteBindings
