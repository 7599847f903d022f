import Mathlib.Data.List.Nodup
import RemoteBindings.Proofs.Agreement
import RemoteBindings.Proofs.Declarations
import RemoteBindings.Proofs.Described

/-!
# Declaration order

A service may declare its classes in any order if their names are distinct without regard to case.
By name they are the same map, chains of bases and the registry read nothing else of them, and so
the models are the same in another order (`describeModels_perm`). Each model comes out the same,
with the same referenced classes (`bindService_perm`).
-/

namespace RemoteBindings

open Descriptor (ModelClass Service)
open ObjC

variable {service service' : Service} {classPrefix : String}

/-- The names of the classes are distinct without regard to case. -/
def DistinctNames (service : Service) : Prop :=
  (service.models.map fun c => Text.lower c.name).Nodup

theorem DistinctNames.nodup (hn : DistinctNames service) :
    (service.models.map ModelClass.name).Nodup := by
  have hc : (fun c : ModelClass => Text.lower c.name) = Text.lower ∘ ModelClass.name := rfl
  rw [DistinctNames, hc, ← List.map_map] at hn
  exact List.Nodup.of_map _ hn

theorem DistinctNames.perm (hn : DistinctNames service) (hp : service.models.Perm service'.models) :
    DistinctNames service' :=
  (hp.map _).nodup_iff.mp hn

/-- The chains of bases do not depend on the order of the classes. -/
theorem isUserModel_perm (hp : service.models.Perm service'.models) (hn : DistinctNames service)
    (c : ModelClass) :
    isUserModel (classesByName service.models) c =
      isUserModel (classesByName service'.models) c := by
  have hb := classesByName_of_nodup hn.nodup
  have hb' := classesByName_of_nodup (hn.perm hp).nodup
  have hperm : (classesByName service.models).Perm (classesByName service'.models) := by
    rw [hb, hb']
    exact hp.map _
  have hk : (classesByName service.models).keys.Nodup := by
    rw [hb, Entries.keys, List.map_map]
    exact hn.nodup
  have hchains : ParallelChains (classesByName service.models) (classesByName service'.models) Eq :=
    { name := congrArg _
      isUser := congrArg _
      base := congrArg _
      next := fun _ _ => by
        rw [Entries.find?_perm hperm hk]
        cases Entries.find? _ (classesByName service'.models) with
        | none => exact .none
        | some next => exact .some rfl }
  exact hchains.isUserModel_eq hperm.length_eq.le rfl

theorem describedModel?_perm (hp : service.models.Perm service'.models)
    (hn : DistinctNames service) :
    describedModel? (classesByName service.models) =
      describedModel? (classesByName service'.models) := by
  funext c
  rw [describedModel?, describedModel?, describeClass, describeClass, isUserModel_perm hp hn]

/-- The same models are described, in another order. -/
theorem describeModels_perm (hp : service.models.Perm service'.models)
    (hn : DistinctNames service) :
    (describeModels service).1.Perm (describeModels service').1 := by
  rw [(keys_describeModels_of_nodup hn.nodup).1,
    (keys_describeModels_of_nodup (hn.perm hp).nodup).1, describedModel?_perm hp hn]
  exact hp.filterMap _

/-- The registries resolve every name to the same. -/
theorem agreeOn_perm (hp : service.models.Perm service'.models) (hn : DistinctNames service)
    (classPrefix : String) (names : List String) :
    (registryOf service classPrefix).AgreeOn (registryOf service' classPrefix) names := by
  intro name _
  refine Registry.resolve?_perm ((describeModels_perm hp hn).map _) ?_
  have hk := (keys_describeModels_of_nodup hn.nodup).2.map Text.lower
  rw [List.map_map] at hk
  exact List.Nodup.sublist hk hn

theorem referencedClasses_congr {generated generated' : List String} (model : Model)
    (h : ∀ cls, cls ∈ generated ↔ cls ∈ generated') :
    referencedClasses generated model = referencedClasses generated' model := by
  have hc (cls : String) : generated.contains cls = generated'.contains cls := by
    rw [Bool.eq_iff_iff, List.contains_iff_mem, List.contains_iff_mem, h]
  simp only [referencedClasses, hc]

/-- Bindings that differ in the order of their models only. -/
structure SameModels (b b' : Bindings) : Prop where
  entries : b.models.Perm b'.models
  models : ∀ key, Entries.find? key b.models = Entries.find? key b'.models
  referenced : ∀ e ∈ b.models,
    referencedClasses (b.models.values.map Model.className) e.2 =
      referencedClasses (b'.models.values.map Model.className) e.2

/-- In whatever order a service declares its classes, it has bindings or it has none, and they are
the same models with the same referenced classes. -/
theorem bindService_perm (hp : service.models.Perm service'.models) (hn : DistinctNames service)
    (classPrefix : String) :
    ((∃ b, (bindService service classPrefix).toExcept = .ok b) ↔
        ∃ b, (bindService service' classPrefix).toExcept = .ok b) ∧
      ∀ b b', (bindService service classPrefix).toExcept = .ok b →
        (bindService service' classPrefix).toExcept = .ok b' → SameModels b b' := by
  have hm := describeModels_perm hp hn
  have hk : (describeModels service).1.keys.Nodup := (describeModels_fresh service).1
  have hk' : (describeModels service').1.keys.Nodup := (describeModels_fresh service').1
  have ha := agreeOn_perm hp hn classPrefix
  have hfault : (bindService service classPrefix).fault = none ↔
      (bindService service' classPrefix).fault = none := by
    simp only [fault_bindService_iff, hm.mem_iff]
    refine and_congr_left fun _ => forall₂_congr fun e _ => ?_
    exact supported_groupScopes_congr rfl (ha _)
  refine ⟨by simp only [Run.exists_toExcept_eq_ok_iff, hfault], fun b b' hb hb' => ?_⟩
  obtain ⟨h, rfl⟩ := Run.toExcept_eq_ok_iff.mp hb
  obtain ⟨h', rfl⟩ := Run.toExcept_eq_ok_iff.mp hb'
  have hfinished : ∀ e ∈ (describeModels service).1,
      finished (registryOf service classPrefix) (describeModels service).1 e =
        finished (registryOf service' classPrefix) (describeModels service').1 e := fun e he =>
    finished_congr rfl rfl rfl hk hk' he (hm.mem_iff.mp he) (ha _)
  have hentries : (bindService service classPrefix).result.models.Perm
      (bindService service' classPrefix).result.models := by
    rw [models_bindService h, models_bindService h',
      List.map_congr_left fun e he => by rw [hfinished e he]]
    exact hm.map _
  have hkeys : (bindService service classPrefix).result.models.keys.Nodup := by
    rw [models_bindService h, Entries.keys, List.map_map]
    exact hk
  refine ⟨hentries, fun key => Entries.find?_perm hentries hkeys, fun e _ => ?_⟩
  exact referencedClasses_congr _ fun cls => ((hentries.map _).map _).mem_iff

/-- A class with a method that takes an instance of another, declared before it and after it. -/
theorem bindService_perm_note :
    ∃ service, Descriptor.build (.list [rawLabelled "Tag", rawClass "Tag" []]) = .ok service ∧
      service.models.Perm service.models.reverse ∧ DistinctNames service ∧
      ∃ b b', (bindService service "").toExcept = .ok b ∧
        (bindService { service with models := service.models.reverse } "").toExcept = .ok b' ∧
        b.models.keys = ["Note", "Tag"] ∧ b'.models.keys = ["Tag", "Note"] ∧ SameModels b b' := by
  have h : ∃ service, Descriptor.build (.list [rawLabelled "Tag", rawClass "Tag" []]) =
      .ok service ∧ (service.models.map fun c => Text.lower c.name).Nodup ∧
        ∃ b, (bindService service "").toExcept = .ok b ∧ b.models.keys = ["Note", "Tag"] ∧
          ∃ b', (bindService { service with models := service.models.reverse } "").toExcept =
            .ok b' ∧ b'.models.keys = ["Tag", "Note"] := by
    decide +kernel
  obtain ⟨service, hs, hn, b, hb, hk, b', hb', hk'⟩ := h
  have hp : service.models.Perm
      ({ service with models := service.models.reverse } : Service).models :=
    (List.reverse_perm service.models).symm
  exact ⟨service, hs, hp, hn, b, b', hb, hb', hk, hk', (bindService_perm hp hn "").2 b b' hb hb'⟩

end RemoteBindings
