import Mathlib.Data.Option.Defs
import RemoteBindings.Proofs.Service

/-!
# Which classes have models

The models of a service are those of its described classes, put into a map in declaration order
(`describeModels_eq`). A class is described unless it has no constructor or is a User model
(`keys_described`), and that depends on its chain of bases: chains that run in parallel come to the
same answer (`ParallelChains.reachesUser_eq`), and more steps than there are names still to be
passed do not change it (`reachesUser_succ`). So a change of classes that keeps their names,
constructors and bases changes each model by itself (`ChangesModels.describeModels_map`).
-/

namespace RemoteBindings

open Descriptor (ModelClass Service)

variable {byName byName' : Entries String ModelClass} {seen : List String} {c c' : ModelClass}

/-! ## Chains of bases -/

/-- Classes of two maps that stand for each other: their bases lead to such classes again. -/
structure ParallelChains (byName byName' : Entries String ModelClass)
    (R : ModelClass → ModelClass → Prop) : Prop where
  name : ∀ {c c'}, R c c' → c.name = c'.name
  isUser : ∀ {c c'}, R c c' → c.isUser = c'.isUser
  base : ∀ {c c'}, R c c' → baseName? c = baseName? c'
  next : ∀ {c c' base}, R c c' → baseName? c = some base →
    Option.Rel R (Entries.find? base byName) (Entries.find? base byName')

theorem ParallelChains.reachesUser_eq {R : ModelClass → ModelClass → Prop}
    (h : ParallelChains byName byName' R) (hc : R c c') (steps : Nat) (seen : List String) :
    reachesUser byName steps seen c = reachesUser byName' steps seen c' := by
  induction steps generalizing seen c c' with
  | zero => rfl
  | succ steps ih =>
    simp only [reachesUser, ← h.name hc, ← h.isUser hc, ← h.base hc]
    cases hb : baseName? c with
    | none => rfl
    | some base =>
      have hnext := h.next hc hb
      simp only
      generalize Entries.find? base byName = next at hnext
      generalize Entries.find? base byName' = next' at hnext
      cases hnext with
      | none => rfl
      | some hn => simp only [ih hn]

/-- The number of names that a chain has not passed yet. -/
def unseenCount (byName : Entries String ModelClass) (seen : List String) : Nat :=
  (byName.keys.filter fun name => !seen.contains name).length

theorem unseenCount_cons_lt {name : String} (hk : name ∈ byName.keys) (hs : name ∉ seen) :
    unseenCount byName (name :: seen) < unseenCount byName seen := by
  have hf : byName.keys.filter (fun n => !(name :: seen).contains n) =
      (byName.keys.filter fun n => !seen.contains n).filter fun n => n != name := by
    rw [List.filter_filter]
    refine List.filter_congr fun n _ => ?_
    rw [List.contains_cons, Bool.not_or]
    rfl
  rw [unseenCount, unseenCount, hf, List.length_filter_lt_length_iff_exists]
  exact ⟨name, List.mem_filter.mpr ⟨hk, by simpa using hs⟩, by simp⟩

theorem reachesUser_of_mem (hs : c.name ∈ seen) (steps : Nat) :
    reachesUser byName steps seen c = false := by
  cases steps with
  | zero => rfl
  | succ steps => rw [reachesUser, if_pos (List.contains_iff_mem.mpr hs)]

/-- A chain passes no more classes than there are names. -/
theorem reachesUser_succ (hk : ∀ e ∈ byName, e.2.name = e.1) {steps : Nat}
    (h : unseenCount byName (c.name :: seen) < steps) :
    reachesUser byName (steps + 1) seen c = reachesUser byName steps seen c := by
  induction steps generalizing seen c with
  | zero => exact absurd h (Nat.not_lt_zero _)
  | succ steps ih =>
    rw [reachesUser, reachesUser]
    refine if_congr Iff.rfl rfl (if_congr Iff.rfl rfl ?_)
    cases baseName? c with
    | none => rfl
    | some base =>
      refine if_congr Iff.rfl rfl ?_
      cases hf : Entries.find? base byName with
      | none => rfl
      | some next =>
        have hmem := Entries.mem_of_find? hf
        have hn : next.name = base := hk _ hmem
        simp only
        -- a base that was passed before ends the chain, any other leaves a name less to be passed
        by_cases hs : base ∈ c.name :: seen
        · rw [reachesUser_of_mem (hn ▸ hs), reachesUser_of_mem (hn ▸ hs)]
        · refine ih ?_
          have hbase : base ∈ byName.keys := List.mem_map_of_mem (f := Prod.fst) hmem
          have hlt := unseenCount_cons_lt hbase hs
          rw [hn]
          omega

theorem unseenCount_le (byName : Entries String ModelClass) (seen : List String) :
    unseenCount byName seen ≤ byName.length := by
  rw [← List.length_map (f := Prod.fst)]
  exact List.length_filter_le _ _

theorem name_of_mem_classesByName {classes : List ModelClass} {e : String × ModelClass}
    (h : e ∈ classesByName classes) : e.2 ∈ classes ∧ e.2.name = e.1 := by
  obtain ⟨c, hc, rfl⟩ := List.mem_map.mp (Entries.mem_of_mem_ofList h)
  exact ⟨hc, rfl⟩

theorem classesByName_of_nodup {classes : List ModelClass}
    (hn : (classes.map ModelClass.name).Nodup) :
    classesByName classes = classes.map fun c => (c.name, c) := by
  refine Entries.ofList_of_nodup ?_
  rwa [Entries.keys, List.map_map]

/-- Classes with distinct names are found under them. -/
theorem find?_classesByName {classes : List ModelClass}
    (hn : (classes.map ModelClass.name).Nodup) (hc : c ∈ classes) :
    Entries.find? c.name (classesByName classes) = some c := by
  have hm : (c.name, c) ∈ classes.map fun c => (c.name, c) := List.mem_map_of_mem hc
  rw [classesByName_of_nodup hn]
  refine (Entries.find?_eq_some_iff ?_).mpr hm
  rwa [Entries.keys, List.map_map]

/-- A chain has the same end among more classes if it runs in parallel there. -/
theorem ParallelChains.isUserModel_eq {classes : List ModelClass}
    {R : ModelClass → ModelClass → Prop} (h : ParallelChains (classesByName classes) byName' R)
    (hlength : (classesByName classes).length ≤ byName'.length) (hc : R c c') :
    isUserModel (classesByName classes) c = isUserModel byName' c' := by
  -- the other map may be longer, so the chains are followed for its number of steps
  have hsteps (n : Nat) :
      reachesUser (classesByName classes) ((classesByName classes).length + 1 + n) [] c =
        isUserModel (classesByName classes) c := by
    induction n with
    | zero => rfl
    | succ n ih =>
      rw [← ih, ← Nat.add_assoc]
      refine reachesUser_succ (fun e he => (name_of_mem_classesByName he).2) ?_
      have hle := unseenCount_le (classesByName classes) [c.name]
      omega
  obtain ⟨n, hn⟩ := Nat.exists_eq_add_of_le hlength
  rw [← hsteps n, isUserModel, ← h.reachesUser_eq hc, hn, Nat.add_right_comm]

/-! ## Models -/

/-- The entry of a class among the models, if it is described. -/
def describedModel? (byName : Entries String ModelClass) (c : ModelClass) :
    Option (String × Model) :=
  match describeClass byName c with
  | .ok model => some (c.name, model)
  | .error _ => none

theorem describedModel?_eq_some_iff {e : String × Model} :
    describedModel? byName c = some e ↔
      ∃ ctor, c.ctor = some ctor ∧ isUserModel byName c = false ∧
        e = (c.name, Model.ofDescriptor c ctor) := by
  unfold describedModel? describeClass
  cases c.ctor with
  | none => simp
  | some ctor => cases isUserModel byName c <;> simp [eq_comm]

theorem describeInto_eq (cs : List ModelClass) (models : Models) :
    (describeInto byName cs models).1 =
      (cs.filterMap (describedModel? byName)).foldl (fun acc e => Entries.put e.1 e.2 acc)
        models := by
  induction cs generalizing models with
  | nil => rfl
  | cons c cs ih =>
    rw [describeInto, List.filterMap_cons, describedModel?]
    cases describeClass byName c with
    | error _ => exact ih models
    | ok model => exact ih _

theorem describeModels_eq (service : Service) :
    (describeModels service).1 =
      Entries.ofList (service.models.filterMap (describedModel? (classesByName service.models))) :=
  describeInto_eq service.models []

/-- Whether a class has a constructor and is no User model. -/
def isDescribed (byName : Entries String ModelClass) (c : ModelClass) : Bool :=
  c.ctor.isSome && !isUserModel byName c

theorem describedModel?_of_isDescribed (h : isDescribed byName c = true) :
    ∃ ctor, c.ctor = some ctor ∧
      describedModel? byName c = some (c.name, Model.ofDescriptor c ctor) := by
  rw [isDescribed, Bool.and_eq_true, Option.isSome_iff_exists, Bool.not_eq_true'] at h
  obtain ⟨⟨ctor, hctor⟩, hu⟩ := h
  exact ⟨ctor, hctor, describedModel?_eq_some_iff.mpr ⟨ctor, hctor, hu, rfl⟩⟩

theorem describedModel?_of_not_isDescribed (h : ¬ isDescribed byName c = true) :
    describedModel? byName c = none := by
  refine Option.eq_none_iff_forall_ne_some.mpr fun e he => h ?_
  obtain ⟨ctor, hctor, hu, -⟩ := describedModel?_eq_some_iff.mp he
  simp [isDescribed, hctor, hu]

/-- Each described class is put into the map under its name. -/
theorem keys_described (byName : Entries String ModelClass) (cs : List ModelClass) :
    Entries.keys (cs.filterMap (describedModel? byName)) =
      (cs.filter (isDescribed byName)).map ModelClass.name := by
  induction cs with
  | nil => rfl
  | cons c cs ih =>
    by_cases h : isDescribed byName c = true
    · obtain ⟨ctor, -, hd⟩ := describedModel?_of_isDescribed h
      rw [List.filterMap_cons_some hd, List.filter_cons_of_pos h, Entries.keys_cons, ih,
        List.map_cons]
    · rw [List.filterMap_cons_none (describedModel?_of_not_isDescribed h),
        List.filter_cons_of_neg h, ih]

theorem keys_describeModels_of_nodup {service : Service}
    (hn : (service.models.map ModelClass.name).Nodup) :
    (describeModels service).1 =
        service.models.filterMap (describedModel? (classesByName service.models)) ∧
      (describeModels service).1.keys.Sublist (service.models.map ModelClass.name) := by
  have hk : (Entries.keys (service.models.filterMap
      (describedModel? (classesByName service.models)))).Sublist
        (service.models.map ModelClass.name) := by
    rw [keys_described]
    exact List.filter_sublist.map _
  rw [describeModels_eq, Entries.ofList_of_nodup (hn.sublist hk)]
  exact ⟨rfl, hk⟩

theorem mem_describeModels {service : Service} {e : String × Model}
    (h : e ∈ (describeModels service).1) :
    ∃ c ∈ service.models, ∃ ctor, c.ctor = some ctor ∧
      e = (c.name, Model.ofDescriptor c ctor) := by
  rw [describeModels_eq] at h
  obtain ⟨c, hc, he⟩ := List.mem_filterMap.mp (Entries.mem_of_mem_ofList h)
  obtain ⟨ctor, hctor, -, rfl⟩ := describedModel?_eq_some_iff.mp he
  exact ⟨c, hc, ctor, hctor, rfl⟩

/-- A change of classes that keeps names and bases, and that changes the models of the classes by
`g`. -/
structure ChangesModels (f : ModelClass → ModelClass) (g : Model → Model) : Prop where
  name : ∀ c, (f c).name = c.name
  isUser : ∀ c, (f c).isUser = c.isUser
  base : ∀ c, baseName? (f c) = baseName? c
  model : ∀ c, (f c).ctor.map (Model.ofDescriptor (f c)) =
    (c.ctor.map (Model.ofDescriptor c)).map g

variable {f : ModelClass → ModelClass} {g : Model → Model}

theorem ChangesModels.classesByName_map (h : ChangesModels f g) (classes : List ModelClass) :
    classesByName (classes.map f) = (classesByName classes).mapValues f := by
  rw [classesByName, classesByName, ← Entries.ofList_mapValues, Entries.mapValues, List.map_map,
    List.map_map]
  refine congrArg _ (List.map_congr_left fun c _ => ?_)
  simp only [Function.comp_apply, h.name]

theorem ChangesModels.parallelChains (h : ChangesModels f g)
    (byName : Entries String ModelClass) :
    ParallelChains byName (byName.mapValues f) fun c c' => c' = f c where
  name := by rintro c _ rfl; exact (h.name c).symm
  isUser := by rintro c _ rfl; exact (h.isUser c).symm
  base := by rintro c _ rfl; exact (h.base c).symm
  next := by
    rintro c _ base rfl -
    rw [Entries.find?_mapValues]
    cases Entries.find? base byName with
    | none => exact .none
    | some next => exact .some rfl

theorem ChangesModels.describedModel?_eq (h : ChangesModels f g) (classes : List ModelClass)
    (c : ModelClass) :
    describedModel? (classesByName (classes.map f)) (f c) =
      (describedModel? (classesByName classes) c).map fun e => (e.1, g e.2) := by
  have hu : isUserModel (classesByName classes) c =
      isUserModel ((classesByName classes).mapValues f) (f c) :=
    (h.parallelChains _).isUserModel_eq (by rw [Entries.mapValues, List.length_map]) rfl
  have hm := h.model c
  rw [describedModel?, describedModel?, describeClass, describeClass, h.classesByName_map, ← hu]
  cases hc : c.ctor <;> cases hc' : (f c).ctor <;> rw [hc, hc'] at hm <;> simp at hm
  · rfl
  · cases isUserModel (classesByName classes) c <;> simp [h.name, hm]

theorem ChangesModels.describeModels_map (h : ChangesModels f g) (service : Service) :
    (describeModels { service with models := service.models.map f }).1 =
      (describeModels service).1.mapValues g := by
  rw [describeModels_eq, describeModels_eq, ← Entries.ofList_mapValues, List.filterMap_map]
  refine congrArg _ ?_
  rw [Entries.mapValues, List.map_filterMap]
  exact List.filterMap_congr fun c _ => h.describedModel?_eq _ c

/-- The names stay, and with them the registry. -/
theorem ChangesModels.registryOf_map (h : ChangesModels f g) (service : Service)
    (classPrefix : String) :
    registryOf { service with models := service.models.map f } classPrefix =
      registryOf service classPrefix := by
  rw [registryOf, h.describeModels_map, Entries.keys_mapValues, registryOf]

end RemoteBindings
