import RemoteBindings.Proofs.Agreement
import RemoteBindings.Proofs.Declarations
import RemoteBindings.Proofs.Described

/-!
# A class that nothing mentions

A class may be declared anywhere among the others without a trace in their models if its name is
`Unmentioned`: without regard to case, no other class has it or refers to it. The map by name, the
registry and the models are then those of the enlarged service without that one name
(`erase_classesByName`, `erase_describeModels`), and nothing else looks for it
(`bindService_insert`).
-/

namespace RemoteBindings

namespace Descriptor

/-- The model names that a method states, for its result and for its arguments. -/
def Method.mentions (m : Method) : List String :=
  (m.returns.head?.bind fun r => r.type.modelName?).toList ++ m.accepts.filterMap Param.model

/-- The model names that a relation states. -/
def Relation.mentions (r : Relation) : List String := r.model.toList ++ r.through.toList

/-- The names of classes that a class refers to: its base, and what its methods, its relations and
its scopes are about. -/
def ModelClass.mentions (c : ModelClass) : List String :=
  (baseName? c).toList ++ (c.ctor.elim [] fun ctor => ctor.accepts.filterMap Param.model) ++
    c.methods.flatMap Method.mentions ++ c.settings.relations.values.flatMap Relation.mentions ++
      c.scopeTargets.values.filterMap id

end Descriptor

open Descriptor (ModelClass Service)
open ObjC Registry

/-- No class of the service has the name or refers to it, without regard to case. -/
def Unmentioned (name : String) (service : Service) : Prop :=
  ∀ c ∈ service.models, ∀ n ∈ c.name :: c.mentions, Text.lower n ≠ Text.lower name

variable {service : Service} {before after : List ModelClass} {c d : ModelClass}
  {classPrefix : String}

/-! ## What a model states -/

theorem statedNames_methodOfDescriptor (ctor : Descriptor.Ctor) (m : Descriptor.Method) :
    (Method.ofDescriptor ctor m).statedNames ⊆
      ctor.accepts.filterMap Descriptor.Param.model ++ m.mentions := by
  have hr : (Method.ofDescriptor ctor m).result.type.modelName? =
      m.returns.head?.bind fun r => r.type.modelName? := by
    simp only [Method.ofDescriptor, Method.result]
    cases m.returns <;> rfl
  have hp (ps : List Descriptor.Param) : (ps.map Param.ofDescriptor).filterMap Param.model =
      ps.filterMap Descriptor.Param.model := List.filterMap_map
  have ha : (Method.ofDescriptor ctor m).accepts.filterMap Param.model ⊆
      ctor.accepts.filterMap Descriptor.Param.model ++
        m.accepts.filterMap Descriptor.Param.model := by
    rw [Method.ofDescriptor]
    cases m.isStatic
    · rw [if_neg Bool.false_ne_true, List.filterMap_append, hp, hp]
      exact List.Subset.refl _
    · rw [if_pos rfl, hp]
      exact List.subset_append_right _ _
  rw [Method.statedNames, Descriptor.Method.mentions, hr]
  intro n hn
  rcases List.mem_append.mp hn with hn | hn
  · exact List.mem_append_right _ (List.mem_append_left _ hn)
  · rcases List.mem_append.mp (ha hn) with hn | hn
    · exact List.mem_append_left _ hn
    · exact List.mem_append_right _ (List.mem_append_right _ hn)

/-- A model states nothing that its class does not mention. -/
theorem statedNames_ofDescriptor {ctor : Descriptor.Ctor} (hctor : d.ctor = some ctor) :
    (Model.ofDescriptor d ctor).statedNames ⊆ d.mentions := by
  have hm (n : String) : n ∈ (Model.ofDescriptor d ctor).methods.flatMap Method.statedNames →
      n ∈ ctor.accepts.filterMap Descriptor.Param.model ∨
        n ∈ d.methods.flatMap Descriptor.Method.mentions := by
    intro hn
    obtain ⟨_, hof, hn⟩ := List.mem_flatMap.mp hn
    obtain ⟨m, hm, rfl⟩ := List.mem_map.mp hof
    exact (List.mem_append.mp (statedNames_methodOfDescriptor ctor m hn)).imp_right fun hn =>
      List.mem_flatMap.mpr ⟨m, hm, hn⟩
  have hr : (Model.ofDescriptor d ctor).relations.values.flatMap Relation.stated =
      d.settings.relations.values.flatMap Descriptor.Relation.mentions := by
    simp only [Model.ofDescriptor, Entries.values, List.map_map, List.flatMap_map]
    rfl
  intro n hn
  rw [Model.statedNames, hr] at hn
  simp only [ModelClass.mentions, hctor, Option.elim_some, List.mem_append] at hn ⊢
  rcases hn with (hn | hn) | hn
  · exact (hm n hn).elim (fun h => .inl (.inl (.inl (.inr h)))) fun h => .inl (.inl (.inr h))
  · exact .inl (.inr hn)
  · exact .inr hn

/-! ## Maps without the class -/

theorem Unmentioned.name_ne (hu : Unmentioned c.name service) (hd : d ∈ service.models) :
    d.name ≠ c.name := fun h => hu d hd d.name List.mem_cons_self (congrArg _ h)

/-- A class has its entry under its own name, so no other class is lost with it. -/
theorem erase_filterMap {α : Type} {f : ModelClass → Option (String × α)}
    (hf : ∀ d e, f d = some e → e.1 = d.name) (h : ∀ d ∈ before ++ after, d.name ≠ c.name) :
    Entries.erase c.name ((before ++ c :: after).filterMap f) =
      (before ++ after).filterMap f := by
  have hself : (f c).filter (fun e => !(e.1 == c.name)) = none := by
    refine Option.filter_eq_none_iff.mpr fun e he => ?_
    simpa using hf c e he
  have hother : ∀ d ∈ before ++ after, (f d).filter (fun e => !(e.1 == c.name)) = f d := by
    intro d hd
    cases he : f d with
    | none => rfl
    | some e => rw [Option.filter_some, if_pos (by simpa [hf d e he] using h d hd)]
  rw [Entries.erase, List.filter_filterMap, List.filterMap_append, List.filterMap_cons, hself,
    ← List.filterMap_append]
  exact List.filterMap_congr hother

theorem erase_classesByName (h : ∀ d ∈ before ++ after, d.name ≠ c.name) :
    Entries.erase c.name (classesByName (before ++ c :: after)) =
      classesByName (before ++ after) := by
  have he := erase_filterMap (f := fun d => some (d.name, d)) (fun d e he => by cases he; rfl) h
  rw [List.filterMap_eq_map'] at he
  rw [classesByName, classesByName, Entries.erase_ofList, he]

/-- No class has the new one as its base, so the chains of bases do not pass it. -/
theorem parallelChains_insert (hu : Unmentioned c.name service)
    (he : Entries.erase c.name (classesByName (before ++ c :: after)) =
      classesByName service.models) :
    ParallelChains (classesByName service.models) (classesByName (before ++ c :: after))
      fun d d' => d = d' ∧ d ∈ service.models where
  name h := congrArg _ h.1
  isUser h := congrArg _ h.1
  base h := congrArg _ h.1
  next := by
    rintro d _ base ⟨rfl, hd⟩ hb
    have hne : c.name ≠ base := by
      rintro rfl
      refine hu d hd c.name (List.mem_cons_of_mem _ ?_) rfl
      simp [ModelClass.mentions, hb]
    have hfind : Entries.find? base (classesByName (before ++ c :: after)) =
        Entries.find? base (classesByName service.models) := by
      rw [← he, Entries.find?_erase, if_neg (by simpa using hne)]
    rw [hfind]
    cases hf : Entries.find? base (classesByName service.models) with
    | none => exact .none
    | some next => exact .some ⟨rfl, (name_of_mem_classesByName (Entries.mem_of_find? hf)).1⟩

theorem isUserModel_insert (hm : service.models = before ++ after)
    (hu : Unmentioned c.name service) (hd : d ∈ service.models) :
    isUserModel (classesByName service.models) d =
      isUserModel (classesByName (before ++ c :: after)) d := by
  have he : Entries.erase c.name (classesByName (before ++ c :: after)) =
      classesByName service.models := by
    rw [hm]
    exact erase_classesByName fun d hd => hu.name_ne (hm ▸ hd)
  have hlength : (classesByName service.models).length ≤
      (classesByName (before ++ c :: after)).length := by
    rw [← he]
    exact List.length_filter_le _ _
  exact (parallelChains_insert hu he).isUserModel_eq hlength ⟨rfl, hd⟩

/-- The models of the other classes are those of all without the one of the class. -/
theorem erase_describeModels (hm : service.models = before ++ after)
    (hu : Unmentioned c.name service) :
    Entries.erase c.name (describeModels { service with models := before ++ c :: after }).1 =
      (describeModels service).1 := by
  have hentry : ∀ d ∈ service.models, describedModel? (classesByName (before ++ c :: after)) d =
      describedModel? (classesByName service.models) d := by
    intro d hd
    rw [describedModel?, describedModel?, describeClass, describeClass, isUserModel_insert hm hu hd]
  rw [describeModels_eq, describeModels_eq, Entries.erase_ofList, erase_filterMap, ← hm,
    List.filterMap_congr hentry]
  · intro d e he
    obtain ⟨_, -, -, rfl⟩ := describedModel?_eq_some_iff.mp he
    rfl
  · exact fun d hd => hu.name_ne (hm ▸ hd)

/-- The registries agree on what the models of the other classes state. -/
theorem agreeOn_insert (hm : service.models = before ++ after) (hu : Unmentioned c.name service)
    (classPrefix : String) {e : String × Model} (he : e ∈ (describeModels service).1) :
    (registryOf service classPrefix).AgreeOn
      (registryOf { service with models := before ++ c :: after } classPrefix) e.2.statedNames := by
  intro n hn
  have hk : (registryOf service classPrefix).names =
      (registryOf { service with models := before ++ c :: after } classPrefix).names.filter
        fun n => !(n == c.name) := by
    rw [registryOf, registryOf, ← erase_describeModels hm hu, Entries.keys, Entries.keys,
      List.filter_map]
    rfl
  obtain ⟨d, hd, ctor, hctor, rfl⟩ := mem_describeModels he
  refine resolve?_eq_of_ne hk fun hl => ?_
  exact hu d hd n (List.mem_cons_of_mem _ (statedNames_ofDescriptor hctor hn)) hl.symm

/-- A class that no other mentions may be taken away: the service still has bindings, and its models
are the same without the one of the class. -/
theorem bindService_insert {b' : Bindings} (hm : service.models = before ++ after)
    (hu : Unmentioned c.name service)
    (h : (bindService { service with models := before ++ c :: after } classPrefix).toExcept =
      .ok b') :
    ∃ b, (bindService service classPrefix).toExcept = .ok b ∧
      b.models = Entries.erase c.name b'.models ∧
      ∀ e ∈ b.models, Entries.find? e.1 b'.models = some e.2 := by
  obtain ⟨hfault, rfl⟩ := Run.toExcept_eq_ok_iff.mp h
  have he := erase_describeModels (c := c) hm hu
  have hmem : ∀ e ∈ (describeModels service).1,
      e ∈ (describeModels { service with models := before ++ c :: after }).1 := fun e hmem => by
    rw [← he] at hmem
    exact (List.mem_filter.mp hmem).1
  have hnone : (bindService service classPrefix).fault = none := by
    obtain ⟨hs, hw⟩ := fault_bindService_iff.mp hfault
    refine fault_bindService_iff.mpr ⟨fun e h => ?_, fun e h => hw e (hmem e h)⟩
    have ha := agreeOn_insert hm hu classPrefix h
    exact (supported_groupScopes_congr (by rfl) ha).mpr (hs e (hmem e h))
  have hmodels : (bindService service classPrefix).result.models =
      Entries.erase c.name (bindService { service with models := before ++ c :: after }
        classPrefix).result.models := by
    rw [models_bindService hnone, models_bindService hfault, Entries.erase_map_values, he]
    refine List.map_congr_left fun e h => congrArg _ ?_
    exact finished_congr rfl rfl rfl (describeModels_fresh _).1 (describeModels_fresh _).1 h
      (hmem e h) (agreeOn_insert hm hu classPrefix h)
  refine ⟨_, Run.toExcept_eq_ok_iff.mpr ⟨hnone, rfl⟩, hmodels, fun e h => ?_⟩
  refine (Entries.find?_eq_some_iff ?_).mpr (List.mem_filter.mp (hmodels ▸ h)).1
  rw [models_bindService hfault, Entries.keys, List.map_map]
  exact (describeModels_fresh _).1

/-- A class without methods that relates to the class `Tag`. -/
def draftClass : ModelClass :=
  let draft := plainClass "Draft" []
  { draft with
    settings :=
      { draft.settings with
        relations := [("tag", ⟨some "belongsTo", some "Tag", none, none, []⟩)] } }

/-- The class is taken away from between two others. -/
theorem bindService_insert_draft :
    ∃ service, Descriptor.build (.list [rawLabelled "Tag", rawClass "Tag" []]) = .ok service ∧
      service.models = service.models.take 1 ++ service.models.drop 1 ∧
      Unmentioned draftClass.name service ∧
      ∃ b b', (bindService service "").toExcept = .ok b ∧
        (bindService
          { service with models := service.models.take 1 ++ draftClass :: service.models.drop 1 }
          "").toExcept = .ok b' ∧
        b'.models.keys = ["Note", "Draft", "Tag"] ∧
        b.models = Entries.erase "Draft" b'.models ∧
        ∀ e ∈ b.models, Entries.find? e.1 b'.models = some e.2 := by
  have h : ∃ service, Descriptor.build (.list [rawLabelled "Tag", rawClass "Tag" []]) =
      .ok service ∧ (∀ c ∈ service.models, ∀ n ∈ c.name :: c.mentions,
          Text.lower n ≠ Text.lower draftClass.name) ∧
        ∃ b', (bindService
          { service with models := service.models.take 1 ++ draftClass :: service.models.drop 1 }
          "").toExcept = .ok b' ∧ b'.models.keys = ["Note", "Draft", "Tag"] := by
    decide +kernel
  obtain ⟨service, hs, hu, b', hb', hk⟩ := h
  have hm := (List.take_append_drop 1 service.models).symm
  obtain ⟨b, hb, hmodels, hfind⟩ := bindService_insert hm hu hb'
  exact ⟨service, hs, hm, hu, b, b', hb, hb', hk, hmodels, hfind⟩

end RemoteBindings
