import Mathlib.Logic.Function.Basic
import RemoteBindings.Proofs.Files
import RemoteBindings.Proofs.Keywords

/-!
# Contracts of repositories

The contract in the source of a repository gives each remote method its route. It is complete if
each remote method of the selectors has one item (`RoutesEach`). The items are those of the
selectors that `firstOfEachMethod` keeps, which passes over a name that has come up before in any
case. So a contract is complete exactly if no two names differ in case only
(`contractComplete_iff`): else the text is shorter than that of a complete one
(`rawName_eq_of_contractComplete`).
-/

namespace RemoteBindings

namespace ObjC

variable {r : Registry} {model : Model} {m : Method} {s t : Selector} {generated : List String}
  {selectors items : List Selector}

/-- What the items of a contract have to be: one for each remote method that is invoked, with the
route of the method. -/
structure RoutesEach (selectors items : List Selector) : Prop where
  once : (items.map Selector.rawName).Nodup
  each : ∀ name, name ∈ items.map Selector.rawName ↔ name ∈ selectors.map Selector.rawName
  route : ∀ i ∈ items, ∀ s ∈ selectors, i.rawName = s.rawName →
    i.httpVerb = s.httpVerb ∧ i.httpPath = s.httpPath

/-- The source of the repository of a model is written with a complete contract. -/
def ContractComplete (generated : List String) (model : Model) : Prop :=
  ∃ items, RoutesEach model.selectors items ∧
    Entries.find? (model.className ++ "Repository.m") (modelFiles generated model) =
      some (repositorySourceWith items (referencedClasses generated model) model)

/-- The name under which a remote method is compared with those before it. -/
def foldedName (s : Selector) : String := Text.lower s.rawName

/-! ## First selectors of remote methods -/

theorem firstOfEachMethod_sublist (seen : List String) (ss : List Selector) :
    (firstOfEachMethod seen ss).Sublist ss := by
  induction ss generalizing seen with
  | nil => exact .slnil
  | cons s ss ih =>
    unfold firstOfEachMethod
    simp only
    split
    · exact (ih seen).cons s
    · exact (ih _).cons_cons s

theorem mem_map_foldedName_firstOfEachMethod {seen : List String} {ss : List Selector}
    {name : String} :
    name ∈ (firstOfEachMethod seen ss).map foldedName ↔
      name ∈ ss.map foldedName ∧ name ∉ seen := by
  induction ss generalizing seen with
  | nil => simp [firstOfEachMethod]
  | cons s ss ih =>
    unfold firstOfEachMethod
    simp only
    split
    · rename_i hs
      rw [ih, List.map_cons, List.mem_cons]
      refine and_congr_left fun hn => ?_
      have hne : name ≠ foldedName s := by
        rintro rfl
        exact hn (List.contains_iff_mem.mp hs)
      exact (or_iff_right hne).symm
    · rename_i hs
      have hs : foldedName s ∉ seen := mt List.contains_iff_mem.mpr hs
      rw [List.map_cons, List.mem_cons, ih, List.map_cons, List.mem_cons, List.mem_cons, not_or]
      constructor
      · rintro (rfl | ⟨hmem, -, hn⟩)
        · exact ⟨.inl rfl, hs⟩
        · exact ⟨.inr hmem, hn⟩
      · rintro ⟨hmem, hn⟩
        by_cases he : name = foldedName s
        · exact .inl he
        · exact .inr ⟨hmem.resolve_left he, he, hn⟩

theorem nodup_map_foldedName_firstOfEachMethod (seen : List String) (ss : List Selector) :
    ((firstOfEachMethod seen ss).map foldedName).Nodup := by
  induction ss generalizing seen with
  | nil => exact List.nodup_nil
  | cons s ss ih =>
    unfold firstOfEachMethod
    simp only
    split
    · exact ih seen
    · refine List.nodup_cons.mpr ⟨fun hmem => ?_, ih _⟩
      exact (mem_map_foldedName_firstOfEachMethod.mp hmem).2 List.mem_cons_self

theorem nodup_map_rawName_firstOfEachMethod (seen : List String) (ss : List Selector) :
    ((firstOfEachMethod seen ss).map Selector.rawName).Nodup := by
  have h := nodup_map_foldedName_firstOfEachMethod seen ss
  have hc : foldedName = Text.lower ∘ Selector.rawName := rfl
  rw [hc, ← List.map_map] at h
  exact h.of_map _

/-! ## Texts of contracts -/

/-- The route of a remote method, under its name. -/
def namedRoute (s : Selector) : String × String × String := (s.rawName, s.httpVerb, s.httpPath)

theorem namedRoute_eq (h : RoutesEach selectors items) (hs : s ∈ items) (ht : t ∈ selectors)
    (hn : s.rawName = t.rawName) : namedRoute s = namedRoute t := by
  obtain ⟨hv, hp⟩ := h.route s hs t ht hn
  rw [namedRoute, hn, hv, hp, namedRoute]

/-- Nothing but the route of a selector is written into its item. -/
theorem contractItem_factorsThrough (pluralName : String) :
    (contractItem pluralName).FactorsThrough namedRoute := by
  intro s t h
  obtain ⟨hn, hv, hp⟩ : s.rawName = t.rawName ∧ s.httpVerb = t.httpVerb ∧
      s.httpPath = t.httpPath := by simpa [namedRoute] using h
  simp only [contractItem, hn, hv, hp]

theorem length_contractItem_pos (pluralName : String) (s : Selector) :
    0 < (contractItem pluralName s).length := by
  rw [contractItem, lines_cons, String.length_append, String.length_append]
  exact Nat.lt_add_right _ (Nat.lt_add_left _ (by decide +kernel))

/-- Whether the contract of some selectors has an item under the name of another. -/
def hasItem (selectors : List Selector) (i : Selector) : Bool :=
  ((firstOfEachMethod [] selectors).map Selector.rawName).contains i.rawName

/-- The items of a complete contract whose names come up are those that are written. -/
theorem map_namedRoute_perm (h : RoutesEach selectors items) :
    ((items.filter (hasItem selectors)).map namedRoute).Perm
      ((firstOfEachMethod [] selectors).map namedRoute) := by
  have hnodup {l : List Selector} (hl : (l.map Selector.rawName).Nodup) :
      (l.map namedRoute).Nodup := by
    have hc : Selector.rawName = Prod.fst ∘ namedRoute := rfl
    rw [hc, ← List.map_map] at hl
    exact hl.of_map _
  have hsub := (firstOfEachMethod_sublist [] selectors).subset
  refine (List.perm_ext_iff_of_nodup (hnodup ?_) (hnodup ?_)).mpr fun x => ?_
  · exact h.once.sublist ((List.filter_sublist).map _)
  · exact nodup_map_rawName_firstOfEachMethod [] selectors
  simp only [List.mem_map, List.mem_filter, hasItem, List.contains_iff_mem]
  constructor
  · rintro ⟨i, ⟨hi, s, hs, hn⟩, rfl⟩
    exact ⟨s, hs, (namedRoute_eq h hi (hsub hs) hn.symm).symm⟩
  · rintro ⟨s, hs, rfl⟩
    obtain ⟨i, hi, hn⟩ := List.mem_map.mp
      ((h.each s.rawName).mpr (List.mem_map_of_mem (hsub hs)))
    exact ⟨i, ⟨hi, s, hs, hn.symm⟩, namedRoute_eq h hi (hsub hs) hn⟩

theorem find?_repositorySource (generated : List String) (model : Model) :
    Entries.find? (model.className ++ "Repository.m") (modelFiles generated model) =
      some (repositorySource (referencedClasses generated model) model) := by
  have h₁ : ¬ ".h" = "Repository.m" := by decide +kernel
  have h₂ : ¬ ".m" = "Repository.m" := by decide +kernel
  have h₃ : ¬ "Repository.h" = "Repository.m" := by decide +kernel
  simp only [modelFiles, Entries.find?, beq_iff_eq, String.append_right_inj, h₁, h₂, h₃, if_false,
    if_true]

/-- The length of the text that the items of some selectors take. -/
def contractLength (model : Model) (items : List Selector) : Nat :=
  (String.join (items.map (contractItem model.pluralName))).length

theorem contractLength_append (model : Model) (items more : List Selector) :
    contractLength model (items ++ more) = contractLength model items + contractLength model more := by
  simp only [contractLength, String.length_join, List.map_append, List.sum_append]

theorem contractLength_perm (h : (selectors.map namedRoute).Perm (items.map namedRoute)) :
    contractLength model selectors = contractLength model items := by
  obtain ⟨write, hwrite⟩ :=
    (Function.factorsThrough_iff _).mp (contractItem_factorsThrough model.pluralName)
  rw [contractLength, contractLength, hwrite, ← List.map_map, ← List.map_map, String.length_join,
    String.length_join]
  exact ((h.map write).map String.length).sum_nat

theorem contractLength_pos (model : Model) (hs : s ∈ items) : 0 < contractLength model items := by
  have hle : (contractItem model.pluralName s).length ≤ contractLength model items := by
    rw [contractLength, String.length_join]
    exact List.single_le_sum (fun _ _ => Nat.zero_le _) _
      (List.mem_map_of_mem (List.mem_map_of_mem hs))
  exact Nat.lt_of_lt_of_le (length_contractItem_pos _ s) hle

/-- Sources with the same text have contracts of the same length. -/
theorem contractLength_eq {forward : List String}
    (h : repositorySourceWith selectors forward model = repositorySourceWith items forward model) :
    contractLength model selectors = contractLength model items := by
  have h := congrArg String.length h
  unfold repositorySourceWith at h
  simp only [String.length_append] at h
  unfold contractLength
  omega

/-- A contract that is written like a complete one passes over no name. -/
theorem rawName_mem_firstOfEachMethod {forward : List String}
    (h : RoutesEach model.selectors items)
    (he : repositorySource forward model = repositorySourceWith items forward model)
    (hs : s ∈ model.selectors) :
    s.rawName ∈ (firstOfEachMethod [] model.selectors).map Selector.rawName := by
  by_contra hn
  obtain ⟨i, hi, hi'⟩ := List.mem_map.mp ((h.each s.rawName).mpr (List.mem_map_of_mem hs))
  have hdropped : i ∈ items.filter fun i => !hasItem model.selectors i := by
    simpa only [hasItem, List.mem_filter, hi, true_and, Bool.not_eq_true', List.contains_eq_mem,
      decide_eq_false_iff_not, hi'] using hn
  have hsame : contractLength model (firstOfEachMethod [] model.selectors) =
      contractLength model items := contractLength_eq he
  have hkept : contractLength model (items.filter (hasItem model.selectors)) =
      contractLength model (firstOfEachMethod [] model.selectors) :=
    contractLength_perm (map_namedRoute_perm h)
  have hparts : contractLength model (items.filter (hasItem model.selectors) ++
      items.filter fun i => !hasItem model.selectors i) = contractLength model items :=
    contractLength_perm ((List.filter_append_perm (hasItem model.selectors) items).map namedRoute)
  rw [contractLength_append] at hparts
  have hpos := contractLength_pos model hdropped
  omega

/-- No two remote methods in a complete contract have names that differ in case only. -/
theorem rawName_eq_of_contractComplete (h : ContractComplete generated model)
    (hs : s ∈ model.selectors) (ht : t ∈ model.selectors)
    (hl : Text.lower s.rawName = Text.lower t.rawName) : s.rawName = t.rawName := by
  obtain ⟨items, hroutes, hfile⟩ := h
  rw [find?_repositorySource, Option.some_inj] at hfile
  obtain ⟨s', hs', hsn⟩ := List.mem_map.mp (rawName_mem_firstOfEachMethod hroutes hfile hs)
  obtain ⟨t', ht', htn⟩ := List.mem_map.mp (rawName_mem_firstOfEachMethod hroutes hfile ht)
  have hsame : s' = t' := by
    refine List.inj_on_of_nodup_map (nodup_map_foldedName_firstOfEachMethod [] model.selectors)
      hs' ht' ?_
    rw [foldedName, foldedName, hsn, htn, hl]
  rw [← hsn, ← htn, hsame]

/-- The selectors that are kept are the items of a complete contract if names that differ do so in
more than case, and each name has one route. -/
theorem routesEach_firstOfEachMethod
    (hn : ∀ s ∈ selectors, ∀ t ∈ selectors, Text.lower s.rawName = Text.lower t.rawName →
      s.rawName = t.rawName)
    (hr : ∀ s ∈ selectors, ∀ t ∈ selectors, s.rawName = t.rawName →
      s.httpVerb = t.httpVerb ∧ s.httpPath = t.httpPath) :
    RoutesEach selectors (firstOfEachMethod [] selectors) := by
  have hsub := (firstOfEachMethod_sublist [] selectors).subset
  refine ⟨nodup_map_rawName_firstOfEachMethod [] selectors, fun name => ⟨fun hmem => ?_, ?_⟩,
    fun i hi s hs => hr i (hsub hi) s hs⟩
  · exact List.map_subset _ hsub hmem
  · intro hmem
    obtain ⟨s, hs, rfl⟩ := List.mem_map.mp hmem
    have hfolded : foldedName s ∈ (firstOfEachMethod [] selectors).map foldedName :=
      mem_map_foldedName_firstOfEachMethod.mpr ⟨List.mem_map_of_mem hs, List.not_mem_nil⟩
    obtain ⟨t, ht, htn⟩ := List.mem_map.mp hfolded
    rw [← hn t (hsub ht) s hs htn]
    exact List.mem_map_of_mem ht

end ObjC

open ObjC

variable {service : Descriptor.Service} {classPrefix : String} {b : Bindings} {e : String × Model}

/-- The contract of a model whose methods have different names is complete exactly if no two remote
methods of its selectors have names that differ in case only. -/
theorem contractComplete_iff (h : (bindService service classPrefix).toExcept = .ok b)
    (he : e ∈ b.models) (hn : (e.2.methods.map Method.name).Nodup) :
    ContractComplete (b.models.values.map Model.className) e.2 ↔
      ∀ s ∈ e.2.selectors, ∀ t ∈ e.2.selectors,
        Text.lower s.rawName = Text.lower t.rawName → s.rawName = t.rawName := by
  refine ⟨fun hc s hs t ht => rawName_eq_of_contractComplete hc hs ht, fun hnames => ?_⟩
  refine ⟨_, routesEach_firstOfEachMethod hnames fun s hs t ht hst => ?_,
    find?_repositorySource _ _⟩
  rw [selectors_of_bindService h he] at hs ht
  obtain ⟨m, hm, hs⟩ := List.mem_flatMap.mp hs
  obtain ⟨n, hn', ht⟩ := List.mem_flatMap.mp ht
  obtain ⟨hsn, hsv, hsp⟩ := route_of_mem_overloads hs
  obtain ⟨htn, htv, htp⟩ := route_of_mem_overloads ht
  have hmn : m = n := List.inj_on_of_nodup_map hn hm hn' (by rw [← hsn, ← htn, hst])
  rw [hsv, htv, hsp, htp, hmn]
  exact ⟨rfl, rfl⟩

/-- A model with two methods, one of which has an optional argument and so two selectors. -/
theorem contractComplete_iff_note :
    ∃ service, Descriptor.build (.list [rawClass "Note" [(.text "methods", .list
        [rawMethod "rename" ["title"], .map [(.text "name", .text "find"), (.text "accepts",
          .list [.map [(.text "arg", .text "filter"), (.text "type", .text "object")]])]])]]) =
        .ok service ∧
      ∃ b, (bindService service "").toExcept = .ok b ∧ ∃ e ∈ b.models,
        (e.2.methods.map Method.name).Nodup ∧
        e.2.selectors.map Selector.rawName = ["rename", "find", "find"] ∧
        ContractComplete (b.models.values.map Model.className) e.2 := by
  have h : ∃ service, Descriptor.build (.list [rawClass "Note" [(.text "methods", .list
        [rawMethod "rename" ["title"], .map [(.text "name", .text "find"), (.text "accepts",
          .list [.map [(.text "arg", .text "filter"), (.text "type", .text "object")]])]])]]) =
        .ok service ∧
      ∃ b, (bindService service "").toExcept = .ok b ∧ ∃ e ∈ b.models,
        (e.2.methods.map Method.name).Nodup ∧
        e.2.selectors.map Selector.rawName = ["rename", "find", "find"] ∧
        ∀ s ∈ e.2.selectors, ∀ t ∈ e.2.selectors,
          Text.lower s.rawName = Text.lower t.rawName → s.rawName = t.rawName := by
    decide +kernel
  obtain ⟨service, hs, b, hb, e, he, hn, hnames, hcase⟩ := h
  exact ⟨service, hs, b, hb, e, he, hn, hnames, (contractComplete_iff hb he hn).mpr hcase⟩

/-- The second of two methods whose names differ in case only has no item in the contract. -/
theorem not_contractComplete :
    ∃ service, Descriptor.build (.list [rawClass "Note" [(.text "methods",
        .list [rawMethod "touch" [], rawMethod "Touch" []])]]) = .ok service ∧
      ∃ b, (bindService service "").toExcept = .ok b ∧ ∃ e ∈ b.models,
        (e.2.methods.map Method.name).Nodup ∧
        ¬ ContractComplete (b.models.values.map Model.className) e.2 := by
  have h : ∃ service, Descriptor.build (.list [rawClass "Note" [(.text "methods",
        .list [rawMethod "touch" [], rawMethod "Touch" []])]]) = .ok service ∧
      ∃ b, (bindService service "").toExcept = .ok b ∧ ∃ e ∈ b.models,
        (e.2.methods.map Method.name).Nodup ∧
        ∃ s ∈ e.2.selectors, ∃ t ∈ e.2.selectors,
          Text.lower s.rawName = Text.lower t.rawName ∧ s.rawName ≠ t.rawName := by
    decide +kernel
  obtain ⟨service, hs, b, hb, e, he, hn, s, hsel, t, htel, hl, hne⟩ := h
  exact ⟨service, hs, b, hb, e, he, hn, fun hc =>
    hne (rawName_eq_of_contractComplete hc hsel htel hl)⟩

end RemoteBindings
