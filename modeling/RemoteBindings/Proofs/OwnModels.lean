import RemoteBindings.Proofs.Checks
import RemoteBindings.Proofs.Described

/-!
# A model of its own for each class

A class without a constructor and a User model are left out of the models of a service, each with a
record of the log (`records_describeInto`). Every other class is described, but under its name:
a class of the same name that comes later takes the place of an earlier one, without a record. So
no class is lost exactly if the names of the described classes are distinct (`losesNoClass_iff`).
Classes given by name have distinct names as long as none of them states another name of its own
(`losesNoClass_of_build_byName`).
-/

namespace RemoteBindings

open Descriptor (ModelClass Service)

/-- The classes of a service that are not to be left out. -/
def describedClasses (service : Service) : List ModelClass :=
  service.models.filter (isDescribed (classesByName service.models))

/-- Why a class is left out. -/
def omissionReason (c : ModelClass) : String :=
  if c.ctor.isNone then "not a LoopBack model" else "the User model is provided by the SDK"

/-- Every class is among the models or in the log. -/
structure LosesNoClass (service : Service) : Prop where
  length : (describeModels service).1.length = (describedClasses service).length
  described : ∀ c ∈ describedClasses service, ∃ ctor, c.ctor = some ctor ∧
    (c.name, Model.ofDescriptor c ctor) ∈ (describeModels service).1
  skipped : (describeModels service).2 =
    (service.models.filter fun c => !isDescribed (classesByName service.models) c).map fun c =>
      skipRecord c.name (omissionReason c)

variable {service : Service}

/-- One record for each class that is left out, and none for any other. -/
theorem records_describeInto (byName : Entries String ModelClass) (cs : List ModelClass)
    (models : Models) :
    (describeInto byName cs models).2 =
      (cs.filter fun c => !isDescribed byName c).map fun c =>
        skipRecord c.name (omissionReason c) := by
  induction cs generalizing models with
  | nil => rfl
  | cons c cs ih =>
    rw [describeInto, describeClass, List.filter_cons, isDescribed]
    cases hc : c.ctor with
    | none => simp [omissionReason, hc, ih]
    | some ctor => cases hu : isUserModel byName c <;> simp [omissionReason, hc, ih]

/-- There are as many models as described classes exactly if the names of these are distinct. -/
theorem length_describeModels_eq_iff :
    (describeModels service).1.length = (describedClasses service).length ↔
      ((describedClasses service).map ModelClass.name).Nodup := by
  have hkeys := keys_described (classesByName service.models) service.models
  have hlength : (service.models.filterMap
      (describedModel? (classesByName service.models))).length =
        (describedClasses service).length := by
    rw [← List.length_map (f := Prod.fst), ← List.length_map (f := ModelClass.name)]
    exact congrArg List.length hkeys
  rw [describeModels_eq, ← hlength, Entries.length_ofList_eq_iff, hkeys, describedClasses]

theorem losesNoClass_of_nodup (hn : ((describedClasses service).map ModelClass.name).Nodup) :
    LosesNoClass service := by
  refine ⟨length_describeModels_eq_iff.mpr hn, fun c hc => ?_, records_describeInto _ _ _⟩
  obtain ⟨hmem, hd⟩ := List.mem_filter.mp hc
  obtain ⟨ctor, hctor, he⟩ := describedModel?_of_isDescribed hd
  rw [describedClasses, ← keys_described] at hn
  rw [describeModels_eq, Entries.ofList_of_nodup hn]
  exact ⟨ctor, hctor, List.mem_filterMap.mpr ⟨c, hmem, he⟩⟩

/-- Classes given by name are all kept as long as none of them states another name. -/
theorem losesNoClass_of_build_byName {named : Entries String Descriptor.Mapping}
    (hk : named.keys.Nodup) (hn : ∀ e ∈ named, Value.field? "name" e.2 = none)
    (h : Descriptor.build (Descriptor.byName named) = .ok service) : LosesNoClass service := by
  rw [← Descriptor.names_of_build_byName hn h] at hk
  exact losesNoClass_of_nodup (hk.sublist (List.filter_sublist.map _))

/-- No class is lost exactly if the names of the described classes are distinct. -/
theorem losesNoClass_iff (service : Service) :
    LosesNoClass service ↔ ((describedClasses service).map ModelClass.name).Nodup :=
  ⟨fun h => length_describeModels_eq_iff.mp h.length, losesNoClass_of_nodup⟩

/-- Classes are lost in a list with two classes of one name, and in a mapping where a class states
the name of another one. -/
theorem classes_lost :
    [Value.list [rawClass "Note" [], rawClass "Note" []],
      Descriptor.byName
        [("Memo", [(.text "name", .text "Note"), (.text "ctor", .map [])]),
         ("Note", [(.text "ctor", .map [])])]].Forall fun raw =>
      ∃ service, Descriptor.build raw = .ok service ∧ (describedClasses service).length = 2 ∧
        (describeModels service).1.keys = ["Note"] ∧ (describeModels service).2.length = 0 := by
  decide +kernel

end RemoteBindings
