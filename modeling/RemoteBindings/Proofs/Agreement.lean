import RemoteBindings.Proofs.Bindings

/-!
# Registries that agree on what a model states

Scopes and bindings of a model depend on a registry only through the names that the model states
(`Model.statedNames`). Where two registries agree on them, the scopes are the same
(`groupScopes_congr`), and with the same prefix so are the bindings (`finished_congr`) and the
conditions for them (`supported_congr_registry`).
-/

namespace RemoteBindings

open ObjC Registry

/-- The name of a model that a type may be. -/
def Value.modelName? : Value → Option String
  | .text name => some name
  | _ => none

/-- The model names that a method states, for its result and for its arguments. -/
def Method.statedNames (m : Method) : List String :=
  m.result.type.modelName?.toList ++ m.accepts.filterMap Param.model

/-- The model names that a model states: in its methods and relations, and as targets of scopes. -/
def Model.statedNames (model : Model) : List String :=
  model.methods.flatMap Method.statedNames ++ model.relations.values.flatMap Relation.stated ++
    model.scopeTargets.values.filterMap id

variable {r r' : Registry} {model : Model} {m : Method} {pass : Pass} {name : String}

/-! ## Scopes -/

theorem targetOf_congr {targets : Entries String (Option String)}
    (h : AgreeOn r r' (targets.values.filterMap id)) (scope : String) :
    targetOf r targets scope = targetOf r' targets scope := by
  unfold targetOf
  split
  · rfl
  · rfl
  · rfl
  · rename_i target _ hf
    have hmem : some target ∈ targets.values :=
      List.mem_map_of_mem (f := Prod.snd) (Entries.mem_of_find? hf)
    rw [h target (List.mem_filterMap.mpr ⟨_, hmem, rfl⟩)]

theorem groupMethods_congr (model : Model) (ms : List Method)
    (h : AgreeOn r r' (model.scopeTargets.values.filterMap id)) :
    groupMethods r model ms = groupMethods r' model ms := by
  induction ms generalizing model with
  | nil => rfl
  | cons m ms ih =>
    have hm : groupMethod r model m = groupMethod r' model m := by
      simp only [groupMethod, openScope, targetOf_congr h]
    simp only [groupMethods, hm, ih { model with scopes := (groupMethod r' model m).scopes } h]

theorem groupScopes_congr (h : AgreeOn r r' (model.scopeTargets.values.filterMap id)) :
    groupScopes r model = groupScopes r' model := by
  rw [groupScopes, groupScopes, groupMethods_congr { model with scopes := [] } _ h]

/-- Grouping keeps the stated names. -/
theorem statedNames_groupScopes (r : Registry) (model : Model) :
    (groupScopes r model).1.statedNames = model.statedNames := by
  have hm (m : Method) : m.listed.statedNames = m.statedNames := by
    unfold Method.listed
    split <;> rfl
  simp only [Model.statedNames, groupScopes_methods, List.flatMap_map, hm]
  rfl

/-! ## Selectors -/

theorem classOf?_congr (hp : r.classPrefix = r'.classPrefix)
    (h : r.resolve? name = r'.resolve? name) : r.classOf? name = r'.classOf? name := by
  rw [classOf?, classOf?, hp, h]

theorem argumentClass_congr {p : Param} {modelClass : String} (hp : r.classPrefix = r'.classPrefix)
    (h : AgreeOn r r' p.model.toList) :
    argumentClass r modelClass p = argumentClass r' modelClass p := by
  unfold argumentClass
  split
  · rfl
  · rfl
  · rename_i name _ hm
    rw [classOf?_congr hp (h name (by simp [hm]))]

theorem returnType?_congr {modelName modelClass : String} {returnsArray : Bool} {type : Value}
    (hp : r.classPrefix = r'.classPrefix) (h : AgreeOn r r' type.modelName?.toList) :
    returnType? r modelName modelClass returnsArray type =
      returnType? r' modelName modelClass returnsArray type := by
  have hc : r.classOfValue? type = r'.classOfValue? type := by
    cases type with
    | text name => exact classOf?_congr hp (h name List.mem_cons_self)
    | _ => rfl
  rw [returnType?, returnType?, hc]

/-- What the selectors of a method are made of. -/
theorem types_congr (model : Model) (hp : r.classPrefix = r'.classPrefix)
    (h : AgreeOn r r' m.statedNames) :
    (∀ p ∈ m.accepts, argumentClass r model.className p = argumentClass r' model.className p) ∧
      returnType? r model.name model.className m.returnsArray m.result.type =
        returnType? r' model.name model.className m.returnsArray m.result.type := by
  refine ⟨fun p hmem => argumentClass_congr hp fun name hn => h name ?_,
    returnType?_congr hp (h.mono (List.subset_append_left _ _))⟩
  exact List.mem_append_right _ (List.mem_filterMap.mpr ⟨p, hmem, by simpa using hn⟩)

theorem argumentsOf_congr_registry {ps : List Param} (hasBody : Bool)
    (h : ∀ p ∈ ps, argumentClass r model.className p = argumentClass r' model.className p) :
    argumentsOf r model m hasBody ps = argumentsOf r' model m hasBody ps := by
  induction ps generalizing hasBody with
  | nil => rfl
  | cons p ps ih =>
    have hp : argumentOf r model m p = argumentOf r' model m p := by
      simp only [argumentOf, h p List.mem_cons_self]
    have hps (hasBody : Bool) := ih hasBody fun q hq => h q (List.mem_cons_of_mem _ hq)
    simp only [argumentsOf, hp, hps]

theorem attempt_congr_registry (hp : r.classPrefix = r'.classPrefix)
    (h : AgreeOn r r' m.statedNames) : attempt r model m pass = attempt r' model m pass := by
  obtain ⟨ha, hr⟩ := types_congr model hp h
  have hargs : argumentsOf r model m false (considered pass m) =
      argumentsOf r' model m false (considered pass m) :=
    argumentsOf_congr_registry false fun p hmem => ha p (List.mem_filter.mp hmem).1
  simp only [attempt, hargs, returnTypeOf, hr]

theorem overloads_congr_registry (hp : r.classPrefix = r'.classPrefix)
    (h : AgreeOn r r' m.statedNames) : overloads r model m = overloads r' model m := by
  simp only [overloads, passSelectors, attempt_congr_registry hp h]

theorem fits_congr_registry (hp : r.classPrefix = r'.classPrefix)
    (h : AgreeOn r r' m.statedNames) : Fits r model m ↔ Fits r' model m := by
  have hfits {r r' : Registry} (hp : r.classPrefix = r'.classPrefix)
      (h : AgreeOn r r' m.statedNames) (hf : Fits r model m) : Fits r' model m := by
    obtain ⟨ha, hr⟩ := types_congr model hp h
    refine ⟨fun p hmem hs => ?_, hf.oneBody, hr ▸ hf.result⟩
    rw [parameterType?, ← ha p hmem]
    exact hf.arguments p hmem hs
  exact ⟨hfits hp h, hfits hp.symm fun name hn => (h name hn).symm⟩

/-! ## Models -/

theorem Model.statedNames_of_mem (hm : m ∈ model.methods) :
    m.statedNames ⊆ model.statedNames := fun _ hn =>
  List.mem_append_left _ (List.mem_append_left _ (List.mem_flatMap.mpr ⟨m, hm, hn⟩))

theorem named_congr (hp : r.classPrefix = r'.classPrefix) (model : Model) :
    named r model = named r' model := by
  rw [named, named, hp]

theorem supported_congr_registry (hp : r.classPrefix = r'.classPrefix)
    (h : AgreeOn r r' model.statedNames) : Supported r model ↔ Supported r' model := by
  have hm : (∀ m ∈ model.methods, m.name ∉ unboundMethods → Fits r (named r model) m) ↔
      ∀ m ∈ model.methods, m.name ∉ unboundMethods → Fits r' (named r' model) m := by
    refine forall₂_congr fun m hm => imp_congr_right fun _ => ?_
    rw [named_congr hp]
    exact fits_congr_registry hp (h.mono (Model.statedNames_of_mem hm))
  exact ⟨fun hs => ⟨hs.base, hs.properties, hm.mp hs.methods⟩,
    fun hs => ⟨hs.base, hs.properties, hm.mpr hs.methods⟩⟩

theorem supported_groupScopes_congr (hp : r.classPrefix = r'.classPrefix)
    (h : AgreeOn r r' model.statedNames) :
    Supported r (groupScopes r model).1 ↔ Supported r' (groupScopes r' model).1 := by
  rw [groupScopes_congr (h.mono (List.subset_append_right _ _))]
  exact supported_congr_registry hp (by rwa [statedNames_groupScopes])

theorem bound_congr_registry (hp : r.classPrefix = r'.classPrefix)
    (h : AgreeOn r r' model.statedNames) : bound r model = bound r' model := by
  have ho : ∀ m ∈ model.methods,
      overloads r (named r' model) m = overloads r' (named r' model) m := fun m hm =>
    overloads_congr_registry hp (h.mono (Model.statedNames_of_mem hm))
  have hf : ∀ m ∈ model.methods, flagged r (named r' model) m = flagged r' (named r' model) m :=
    fun m hm => by rw [flagged, flagged, ho m hm]
  rw [bound, bound, named_congr hp, List.map_congr_left hf, List.flatMap_congr ho]

/-- A resolved name is that of a model, so all resolved names count as targets. -/
theorem targets_eq {models : Models} (hr : r.names = models.keys) (source : String)
    (relation : Relation) :
    relation.targets r models source =
      (relation.stated.filterMap r.resolve?).filter fun target => target != source := by
  refine List.filter_congr fun target ht => ?_
  obtain ⟨n, -, hn⟩ := List.mem_filterMap.mp ht
  have hk : Entries.hasKey target models = true := by
    obtain ⟨e, he, rfl⟩ := List.mem_map.mp (hr ▸ mem_names_of_resolve? hn)
    exact List.any_eq_true.mpr ⟨e, he, beq_self_eq_true _⟩
  rw [hk, Bool.and_true]

theorem neighbours_congr {models models' : Models} (hr : r.names = models.keys)
    (hr' : r'.names = models'.keys)
    (h : AgreeOn r r' (model.relations.values.flatMap Relation.stated)) (source : String) :
    neighbours r models source model = neighbours r' models' source model := by
  unfold neighbours
  refine congrArg _ (List.flatMap_congr fun relation hmem => congrArg _ ?_)
  rw [targets_eq hr, targets_eq hr']
  refine congrArg _ (List.filterMap_congr fun n hn => h n ?_)
  exact List.mem_flatMap.mpr ⟨relation, hmem, hn⟩

/-- A model comes out the same where the registries of two services agree on what it states. -/
theorem finished_congr {models models' : Models} {e : String × Model}
    (hp : r.classPrefix = r'.classPrefix) (hr : r.names = models.keys)
    (hr' : r'.names = models'.keys) (hn : models.keys.Nodup) (hn' : models'.keys.Nodup)
    (he : e ∈ models) (he' : e ∈ models') (h : AgreeOn r r' e.2.statedNames) :
    finished r models e = finished r' models' e := by
  have hg : groupScopes r e.2 = groupScopes r' e.2 :=
    groupScopes_congr (h.mono (List.subset_append_right _ _))
  have hb : bound r (groupScopes r' e.2).1 = bound r' (groupScopes r' e.2).1 :=
    bound_congr_registry hp (by rwa [statedNames_groupScopes])
  have hi : (finished r models e).includes = (finished r' models' e).includes := by
    rw [includes_finished hn he, includes_finished hn' he', hp,
      neighbours_congr hr hr' (h.mono fun _ hm =>
        List.mem_append_left _ (List.mem_append_right _ hm))]
  simp only [finished] at hi ⊢
  rw [hg, hb, hi]

end RemoteBindings
