import Mathlib.Data.List.Nodup
import RemoteBindings.Proofs.SelectorFields

/-!
# Names of Objective-C parameters

Each argument of a selector has the name under which the remote method accepts it, apart from `id`,
which is a type in Objective-C and becomes `id_` (`map_name_arguments`). Two names come to the same
only in this way (`parameterName_eq_iff`), and the blocks take the names `success` and `failure` for
themselves. So the names of all parameters are distinct exactly if the arguments leave the other
names alone (`LeavesNames`), which `nodup_parameterNames_iff` says of every pass.
-/

namespace RemoteBindings

/-- The names of the Objective-C parameters: those of the arguments, then those of the blocks. -/
def Selector.parameterNames (s : Selector) : List String :=
  s.arguments.map Argument.name ++ ["success", "failure"]

namespace ObjC

variable {r : Registry} {model : Model} {m : Method} {pass : Pass} {ps : List Param}
  {as : List Argument} {s : Selector} {x y : String}

/-- Arguments under names that a selector does not need for another parameter. -/
structure LeavesNames (labels : List String) : Prop where
  success : "success" ∉ labels
  failure : "failure" ∉ labels
  /-- The name that stands for `id`. -/
  id : "id" ∈ labels → "id_" ∉ labels

instance (labels : List String) : Decidable (LeavesNames labels) :=
  decidable_of_iff (_ ∧ _ ∧ _) ⟨fun ⟨hs, hf, hi⟩ => ⟨hs, hf, hi⟩,
    fun h => ⟨h.success, h.failure, h.id⟩⟩

/-! ## Names -/

theorem parameterName_of_ne (h : x ≠ "id") : parameterName x = x := if_neg h

theorem parameterName_eq_iff (hne : x ≠ y) :
    parameterName x = parameterName y ↔ x = "id" ∧ y = "id_" ∨ x = "id_" ∧ y = "id" := by
  by_cases hx : x = "id"
  · subst hx
    have hy : y ≠ "id" := hne.symm
    rw [parameterName_of_ne hy, parameterName, if_pos rfl, eq_comm]
    simp [hy]
  · rw [parameterName_of_ne hx]
    by_cases hy : y = "id"
    · subst hy
      rw [parameterName, if_pos rfl]
      simp [hx]
    · rw [parameterName_of_ne hy]
      simp [hne, hx, hy]

/-- Names other than those of `id` are kept. -/
theorem parameterName_eq_name_iff (hy : y ≠ "id") (hy' : y ≠ "id_") :
    parameterName x = y ↔ x = y := by
  by_cases hx : x = "id"
  · subst hx
    rw [parameterName, if_pos rfl]
    exact iff_of_false hy'.symm hy.symm
  · rw [parameterName_of_ne hx]

theorem map_name_of_forall₂ (h : List.Forall₂ (StandsFor r model) ps as) :
    as.map Argument.name = (ps.map Param.arg).map parameterName := by
  induction h with
  | nil => rfl
  | cons hp _ ih => rw [List.map_cons, List.map_cons, List.map_cons, ih, hp.name]; rfl

/-- The arguments of a selector have the names of the parameters that its pass considers. -/
theorem map_name_arguments (h : attempt r model m pass = .ok (.selector s)) :
    s.arguments.map Argument.name = (labels pass m).map parameterName :=
  map_name_of_forall₂ (selectorFor_of_attempt h).arguments

/-- Distinct labels stay distinct as parameter names unless both `id` and `id_` are among them. -/
theorem nodup_map_parameterName_iff {labels : List String} (hd : labels.Nodup) :
    (labels.map parameterName).Nodup ↔ ("id" ∈ labels → "id_" ∉ labels) := by
  rw [List.nodup_map_iff_inj_on hd]
  constructor
  · intro hinj hid hid'
    have heq := hinj "id" hid "id_" hid' (by decide)
    exact absurd heq (by decide)
  · intro hid x hx y hy hxy
    by_contra hne
    rcases (parameterName_eq_iff hne).mp hxy with ⟨rfl, rfl⟩ | ⟨rfl, rfl⟩
    · exact hid hx hy
    · exact hid hy hx

theorem mem_map_parameterName_iff {labels : List String} (hy : y ≠ "id") (hy' : y ≠ "id_") :
    y ∈ labels.map parameterName ↔ y ∈ labels := by
  simp only [List.mem_map, parameterName_eq_name_iff hy hy', exists_eq_right]

theorem nodup_names_iff {labels : List String} (hd : labels.Nodup) :
    (labels.map parameterName ++ ["success", "failure"]).Nodup ↔ LeavesNames labels := by
  have hsuccess : "success" ∈ labels.map parameterName ↔ "success" ∈ labels :=
    mem_map_parameterName_iff (by decide) (by decide)
  have hfailure : "failure" ∈ labels.map parameterName ↔ "failure" ∈ labels :=
    mem_map_parameterName_iff (by decide) (by decide)
  rw [List.nodup_append', nodup_map_parameterName_iff hd, List.disjoint_right]
  constructor
  · rintro ⟨hid, -, hblocks⟩
    exact
      { success := mt hsuccess.mpr (hblocks List.mem_cons_self)
        failure := mt hfailure.mpr (hblocks (by decide))
        id := hid }
  · intro h
    refine ⟨h.id, by decide, fun name hname => ?_⟩
    rcases List.mem_pair.mp hname with rfl | rfl
    · exact mt hsuccess.mp h.success
    · exact mt hfailure.mp h.failure

theorem labels_sublist (pass : Pass) (m : Method) :
    (labels pass m).Sublist ((m.accepts.filter fun p => !p.isServerComputed).map Param.arg) := by
  apply List.Sublist.map
  rw [considered]
  exact List.monotone_filter_right _ fun p hp => (Bool.and_eq_true_iff.mp hp).1

/-- The parameters of a selector have distinct names exactly if the arguments, whose labels are
distinct, leave the names of the blocks and the one for `id` alone. -/
theorem nodup_parameterNames_iff
    (hd : ((m.accepts.filter fun p => !p.isServerComputed).map Param.arg).Nodup)
    (h : attempt r model m pass = .ok (.selector s)) :
    s.parameterNames.Nodup ↔ LeavesNames (labels pass m) := by
  have hlabels : (labels pass m).Nodup := hd.sublist (labels_sublist pass m)
  rw [Selector.parameterNames, map_name_arguments h]
  exact nodup_names_iff hlabels

theorem nodup_parameterNames_iff_find :
    ∃ service, Descriptor.build (.list [rawClass "Note" [(.text "methods",
        .list [rawMethod "findById" ["id", "filter"]])]]) = .ok service ∧
      ∃ b, (bindService service "").toExcept = .ok b ∧ ∃ e ∈ b.models, ∃ m ∈ e.2.methods,
        ((m.accepts.filter fun p => !p.isServerComputed).map Param.arg).Nodup ∧
        ∃ s, attempt b.registry e.2 m .requiredOnly = .ok (.selector s) ∧
          s.parameterNames = ["id_", "filter", "success", "failure"] ∧
          s.parameterNames.Nodup := by
  have h : ∃ service, Descriptor.build (.list [rawClass "Note" [(.text "methods",
        .list [rawMethod "findById" ["id", "filter"]])]]) = .ok service ∧
      ∃ b, (bindService service "").toExcept = .ok b ∧ ∃ e ∈ b.models, ∃ m ∈ e.2.methods,
        ((m.accepts.filter fun p => !p.isServerComputed).map Param.arg).Nodup ∧
        LeavesNames (labels .requiredOnly m) ∧
        ∃ s ∈ passSelectors b.registry e.2 m .requiredOnly,
          s.parameterNames = ["id_", "filter", "success", "failure"] := by
    decide +kernel
  obtain ⟨service, hs, b, hb, e, he, m, hm, hd, hleaves, s, hmem, hnames⟩ := h
  have hmade := mem_passSelectors.mp hmem
  exact ⟨service, hs, b, hb, e, he, m, hm, hd, s, hmade, hnames,
    (nodup_parameterNames_iff hd hmade).mpr hleaves⟩

/-- An argument may be called like a block, and another one like the name that stands for `id`. -/
theorem not_nodup_parameterNames :
    ∃ service, Descriptor.build (.list [rawClass "Note" [(.text "methods", .list
        [rawMethod "report" ["success"], rawMethod "merge" ["id", "id_"]])]]) = .ok service ∧
      ∃ b, (bindService service "").toExcept = .ok b ∧ ∃ e ∈ b.models,
        (∀ m ∈ e.2.methods,
          ((m.accepts.filter fun p => !p.isServerComputed).map Param.arg).Nodup) ∧
        e.2.selectors.map Selector.parameterNames =
          [["success", "success", "failure"], ["id_", "id_", "success", "failure"]] ∧
        ∀ s ∈ e.2.selectors, ¬ s.parameterNames.Nodup := by
  decide +kernel

end ObjC

end RemoteBindings
