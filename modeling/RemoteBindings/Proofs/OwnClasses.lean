import RemoteBindings.Proofs.Agreement
import RemoteBindings.Proofs.Described

/-!
# References to a model by its name

The class of a model is made of its own name, but what refers to a model goes through the registry,
which takes the first name that is equal without regard to case. Both come to the same class for
every exposed name exactly if names that differ in case alone have the same Pascal case
(`leadsTo_iff`). Otherwise the later one of two such models has a class to which no name leads.
-/

namespace RemoteBindings

open ObjC

variable {service : Descriptor.Service} {classPrefix : String} {b : Bindings} {e : String × Model}

/-- The class of a model is found under a name, and so it is wherever the name may stand in the
description of a model. -/
structure LeadsTo (b : Bindings) (name : String) (target : Model) : Prop where
  registered : b.registry.classOf? name = some target.className
  asResult : ∀ e ∈ b.models, ∀ m ∈ e.2.methods, m.result.type = .text name →
    ∀ s ∈ overloads b.registry e.2 m, s.returnType = target.className
  /-- As the model of a parameter; there an empty text names no class. -/
  asParameter : ∀ e ∈ b.models, ∀ m ∈ e.2.methods, ∀ p ∈ m.accepts, p.model = some name →
    name ≠ "" → target.className ≠ "" →
    argumentClass b.registry e.2.className p = target.className
  /-- As a model that a relation leads to or through; a class does not include itself. -/
  asRelated : ∀ e ∈ b.models, ∀ relation ∈ e.2.relations.values, name ∈ relation.stated →
    target.className = e.2.className ∨ target.className ∈ e.2.includes
  /-- As the target of a scope; there an empty text is no target. -/
  asTarget : ∀ e ∈ b.models, ∀ scope, Entries.find? scope e.2.scopeTargets = some (some name) →
    name ≠ "" → targetOf b.registry e.2.scopeTargets scope = .ok name

/-- Names that are equal without regard to case have the same Pascal case. -/
def Registry.OneClassPerName (r : Registry) : Prop :=
  ∀ n ∈ r.names, ∀ n' ∈ r.names, Text.lower n = Text.lower n' →
    Text.pascalCase n = Text.pascalCase n'

/-! ## The registry -/

namespace Registry

variable {r : Registry} {name : String}

theorem exists_resolve?_of_mem (hn : name ∈ r.names) :
    ∃ n ∈ r.names, r.resolve? name = some n ∧ Text.lower n = Text.lower name := by
  have hs : (r.resolve? name).isSome := List.find?_isSome.mpr ⟨name, hn, beq_self_eq_true _⟩
  obtain ⟨n, hr⟩ := Option.isSome_iff_exists.mp hs
  exact ⟨n, mem_names_of_resolve? hr, hr, by simpa using List.find?_some hr⟩

theorem classOf?_eq_of_lower_eq {name' : String} (h : Text.lower name = Text.lower name') :
    r.classOf? name = r.classOf? name' := by
  rw [classOf?, classOf?, resolve?, resolve?, h]

/-- Each exposed name leads to the class that is made of it exactly if there is one class for all
names that differ in case alone. -/
theorem forall_classOf?_eq_iff :
    (∀ n ∈ r.names, r.classOf? n = some (className n r.classPrefix)) ↔ r.OneClassPerName := by
  constructor
  · intro h n hn n' hn' hl
    have hc : some (className n r.classPrefix) = some (className n' r.classPrefix) := by
      rw [← h n hn, ← h n' hn', classOf?_eq_of_lower_eq hl]
    exact (String.append_right_inj _).mp (Option.some.inj hc)
  · intro h n hn
    obtain ⟨n', hn', hr, hl⟩ := exists_resolve?_of_mem hn
    rw [classOf?, hr, Option.map_some, className, className, h n' hn' n hn hl]

end Registry

/-! ## Where a name may stand -/

/-- A name whose class is in the registry gives the type of a result; the own name comes first. -/
theorem returnType?_of_classOf? {r : Registry} {modelName modelClass name cls : String}
    (ho : name = modelName → modelClass = cls) (hc : r.classOf? name = some cls) :
    returnType? r modelName modelClass false (.text name) = some cls := by
  have hv : r.classOfValue? (.text name) = some cls := hc
  rw [returnType?, if_neg Bool.false_ne_true]
  split
  · rename_i hn
    rw [ho (eq_of_beq hn)]
  · rw [hv]

theorem argumentClass_of_classOf? {r : Registry} {modelClass name cls : String} {p : Param}
    (hp : p.model = some name) (hn : name ≠ "") (hc : r.classOf? name = some cls) (hcls : cls ≠ "") :
    argumentClass r modelClass p = cls := by
  unfold argumentClass
  rw [hp]
  split
  · contradiction
  · rename_i h
    exact absurd (Option.some.inj h) hn
  · rename_i h
    cases h
    rw [hc]
    split
    · contradiction
    · rename_i h
      exact absurd (Option.some.inj h) hcls
    · rename_i h
      exact (Option.some.inj h).symm

/-- What a relation leads to is a neighbour, unless it is the model itself. -/
theorem mem_neighbours_of_stated {r : Registry} {models : Models} {source name target : String}
    {model : Model} {relation : Relation} (hr : r.names = models.keys)
    (hrel : relation ∈ model.relations.values) (hs : name ∈ relation.stated)
    (ht : r.resolve? name = some target) (hne : target ≠ source) :
    target ∈ (neighbours r models source model).keys := by
  refine mem_keys_neighbours_iff.mpr ⟨relation, hrel, ?_⟩
  rw [targets_eq hr]
  exact List.mem_filter.mpr ⟨List.mem_filterMap.mpr ⟨name, hs, ht⟩, by simpa using hne⟩

/-! ## Bindings -/

/-- Only the accessors of a scope return an array in any case, and they are not listed. -/
theorem returnsArray_of_bindService (h : (bindService service classPrefix).toExcept = .ok b)
    (he : e ∈ b.models) {m : Method} (hm : m ∈ e.2.methods) : m.returnsArray = false := by
  obtain ⟨d, hd, -, hfin⟩ := finished_of_bindService h he
  obtain ⟨c, -, ctor, -, rfl⟩ := mem_describeModels hd
  rw [hfin] at hm
  obtain ⟨listed, hl, rfl⟩ := List.mem_map.mp hm
  rw [groupScopes_methods] at hl
  obtain ⟨n, hn, rfl⟩ := List.mem_map.mp hl
  obtain ⟨raw, -, rfl⟩ := List.mem_map.mp hn
  show (Method.listed _).returnsArray = false
  unfold Method.listed
  split <;> rfl

/-- A model includes the class of every model that its relations lead to, itself apart. -/
theorem mem_includes_of_bindService (h : (bindService service classPrefix).toExcept = .ok b)
    (he : e ∈ b.models) {relation : Relation} (hrel : relation ∈ e.2.relations.values)
    {name cls : String} (hs : name ∈ relation.stated) (hc : b.registry.classOf? name = some cls) :
    cls = e.2.className ∨ cls ∈ e.2.includes := by
  obtain ⟨target, ht, rfl⟩ := Option.map_eq_some_iff.mp hc
  obtain ⟨d, hd, hkey, hfin⟩ := finished_of_bindService h he
  by_cases hne : target = d.1
  · rw [(names_of_bindService h he).2, ← hkey, hne]
    exact .inl rfl
  · have hnames : b.registry.names = (describeModels service).1.keys := by
      rw [registry_of_bindService h]
      rfl
    have hmem : target ∈ (neighbours b.registry (describeModels service).1 d.1 d.2).keys := by
      rw [hfin] at hrel
      exact mem_neighbours_of_stated hnames hrel hs ht hne
    rw [hfin, includes_finished (describeModels_fresh service).1 hd]
    exact .inr (List.mem_map_of_mem hmem)

/-- A name under which the registry has the class of a model leads to it wherever it stands. -/
theorem leadsTo_of_classOf? (h : (bindService service classPrefix).toExcept = .ok b)
    (he : e ∈ b.models) (hc : b.registry.classOf? e.1 = some e.2.className) :
    LeadsTo b e.1 e.2 where
  registered := hc
  asResult := by
    intro e' he' m hm ht s hs
    obtain ⟨pass, -, ha⟩ := mem_overloads.mp hs
    obtain ⟨-, arguments, type, -, htype, -, rfl⟩ := attempt_selector ha
    have hown : e.1 = e'.2.name → e'.2.className = e.2.className := fun hn => by
      rw [(names_of_bindService h he').2, (names_of_bindService h he).2,
        ← (names_of_bindService h he').1, hn]
    rw [returnsArray_of_bindService h he' hm, ht, returnType?_of_classOf? hown hc] at htype
    exact (Option.some.inj htype).symm
  asParameter _ _ _ _ _ _ hp hn hcls := argumentClass_of_classOf? hp hn hc hcls
  asRelated _ he' _ hrel hs := mem_includes_of_bindService h he' hrel hs hc
  asTarget := by
    intro e' _ scope hf hn
    have hk : e.1 ∈ b.registry.names := keys_of_bindService h ▸ List.mem_map_of_mem he
    obtain ⟨n, -, hr, -⟩ := Registry.exists_resolve?_of_mem hk
    rw [targetOf, hf]
    simp only [hr, Option.isSome_some, if_true]

/-- The exposed names are those of the models, and each of them leads to the class that is generated
for this very model exactly if names that differ in case alone have the same Pascal case. -/
theorem leadsTo_iff (h : (bindService service classPrefix).toExcept = .ok b) :
    b.models.keys = b.registry.names ∧
      ((∀ e ∈ b.models, LeadsTo b e.1 e.2) ↔ b.registry.OneClassPerName) := by
  have hkeys := keys_of_bindService h
  refine ⟨hkeys, ?_⟩
  rw [← Registry.forall_classOf?_eq_iff, ← hkeys, Entries.keys, List.forall_mem_map]
  refine forall₂_congr fun e he => ?_
  rw [← (names_of_bindService h he).2]
  exact ⟨LeadsTo.registered, leadsTo_of_classOf? h he⟩

/-- A class with the method `owner`, whose result is an instance of the given model. -/
def rawOwned (name model : String) : Value :=
  rawClass name [(.text "methods", .list [.map [(.text "name", .text "owner"),
    (.text "isStatic", .bool true),
    (.text "returns", .list [.map [(.text "type", .text model)]])]])]

/-- Two models that differ in case alone, with one class for both. -/
theorem leadsTo_iff_note :
    ∃ service, Descriptor.build (.list [rawClass "note" [], rawOwned "Note" "note"]) =
        .ok service ∧
      ∃ b, (bindService service "XX").toExcept = .ok b ∧ b.models.keys = ["note", "Note"] ∧
        b.models.keys = b.registry.names ∧
        ((∀ e ∈ b.models, LeadsTo b e.1 e.2) ↔ b.registry.OneClassPerName) ∧
        ∀ e ∈ b.models, LeadsTo b e.1 e.2 := by
  have h : ∃ service, Descriptor.build (.list [rawClass "note" [], rawOwned "Note" "note"]) =
      .ok service ∧ ∃ b, (bindService service "XX").toExcept = .ok b ∧
        b.models.keys = ["note", "Note"] ∧ b.registry.names = ["note", "Note"] := by
    decide +kernel
  obtain ⟨service, hs, b, hb, hk, hn⟩ := h
  have hone : b.registry.OneClassPerName := by
    rw [Registry.OneClassPerName, hn]
    decide +kernel
  obtain ⟨hkeys, hiff⟩ := leadsTo_iff hb
  exact ⟨service, hs, b, hb, hk, hkeys, hiff, hiff.mpr hone⟩

/-- Of two models that differ in case alone the later one has a class to which its own name does not
lead: a result of this type is taken for the earlier one. -/
theorem not_leadsTo_own_class :
    ∃ service, Descriptor.build (.list
        [rawClass "UserId" [], rawClass "Userid" [], rawOwned "Note" "Userid"]) = .ok service ∧
      ∃ b, (bindService service "").toExcept = .ok b ∧
        (Entries.find? "Userid" b.models).map Model.className = some "Userid" ∧
        b.registry.classOf? "Userid" = some "UserId" ∧
        ∃ note, Entries.find? "Note" b.models = some note ∧
          note.selectors.map Selector.returnType = ["UserId"] := by
  decide +kernel

end RemoteBindings
