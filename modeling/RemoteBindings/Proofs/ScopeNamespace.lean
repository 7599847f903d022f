import RemoteBindings.Proofs.ScopeMethods

/-!
# Names below a scope

The methods of a scope are to be below its name, with `createMany` among them if there is an
accessor `create`. The own name of an accessor is always below its scope
(`AccessorName.isBelow_apiName`). A companion has its name by a replacement that takes the first
`create` it finds, be it one in the name of the scope, and it gives way to an accessor of its name
that comes later. `namespaced_iff` says that nothing else can go wrong.
-/

namespace RemoteBindings

variable {r : Registry} {model : Model} {methods : List Method} {name op : String} {scope : Scope}
  {accessors : List (String × Method)}

/-- All methods of a scope are below its name, and where an instance can be created, so can many. -/
structure Scope.Namespaced (scope : Scope) (name : String) (methods : List Method) : Prop where
  below : ∀ k ∈ scope.methods.keys, IsBelow name k
  createMany : (∃ m ∈ methods, AccessorName.parse? m.name = some ⟨"create", name⟩) →
    ∃ e, Entries.find? (name ++ ".createMany") scope.methods = some e ∧ e.returnsArray = true

/-- Accessors whose companions have their names, and that leave the companion of `create` there. -/
structure CompanionKept (name : String) (accessors : List (String × Method)) : Prop where
  /-- The name of the scope has no part that is replaced. -/
  plain : Text.contains name "create" = false
  /-- After an accessor that takes the name of the companion there is one that takes it again. -/
  takenBack : (∃ x ∈ accessors, x.1 = "create") →
    ∀ before x after, accessors = before ++ x :: after → x.1 = "createMany" →
      x.2.returnsArray = false → ∃ y ∈ after, y.1 = "create" ∨ y.1 = "createMany"

theorem exists_mem_accessorsOf_iff : (∃ x ∈ accessorsOf name methods, x.1 = op) ↔
    ∃ m ∈ methods, AccessorName.parse? m.name = some ⟨op, name⟩ := by
  constructor
  · rintro ⟨x, hx, rfl⟩
    exact ⟨x.2, mem_accessorsOf.mp hx⟩
  · rintro ⟨m, hm, ha⟩
    exact ⟨(op, m), mem_accessorsOf.mpr ⟨hm, ha⟩, rfl⟩

theorem accessorsOf_ne_nil
    (hs : Entries.find? name (groupScopes r model).1.scopes = some (some scope)) :
    accessorsOf name model.methods ≠ [] := by
  have hk : name ∈ (groupScopes r model).1.scopes.keys :=
    List.mem_map_of_mem (Entries.mem_of_find? hs)
  rw [(filed_groupScopes r model).keys] at hk
  obtain ⟨m, hm, ⟨op, _⟩, ha, rfl⟩ := mem_accessorScopes.mp hk
  obtain ⟨x, hx, -⟩ := exists_mem_accessorsOf_iff.mpr ⟨m, hm, ha⟩
  exact List.ne_nil_of_mem hx

/-! ## The name `createMany` -/

theorem apiName_createMany (name : String) :
    (⟨"createMany", name⟩ : AccessorName).apiName = name ++ ".createMany" := by
  have hc : Text.contains "createMany" "create" = true := by decide
  rw [AccessorName.apiName_of_contains (a := ⟨"createMany", name⟩) hc, String.append_assoc]
  rfl

/-- In a scope without `create` in its name there are two operations that write `createMany`. -/
theorem writes_createMany_iff (hn : Text.contains name "create" = false) :
    Writes name op (⟨"createMany", name⟩ : AccessorName).apiName ↔
      op = "create" ∨ op = "createMany" := by
  have hmany : Text.contains "createMany" "create" = true := by decide
  rw [writes_apiName_iff, or_comm]
  refine or_congr ⟨fun ⟨_, hc, he⟩ => (manyName_eq_createMany_iff hc).mp he.symm, ?_⟩
    ⟨fun hs => ((AccessorName.sharesName_iff hmany).mp hs.symm).symm, .inl⟩
  rintro rfl
  exact ⟨hn, by decide, rfl⟩

/-! ## When names are below the scope -/

theorem Scope.Namespaced.plain
    (hm : scope.methods = Entries.ofList (entriesOf name (accessorsOf name methods)))
    (hne : accessorsOf name methods ≠ []) (h : scope.Namespaced name methods) :
    Text.contains name "create" = false := by
  obtain ⟨x, hx⟩ := List.exists_mem_of_ne_nil _ hne
  cases hn : Text.contains name "create" with
  | false => rfl
  | true =>
    have hc : Text.contains (⟨x.1, name⟩ : AccessorName).apiName "create" = true := by
      rw [AccessorName.contains_apiName, hn, Bool.true_or]
    have hk : manyName (⟨x.1, name⟩ : AccessorName).apiName ∈ scope.methods.keys := by
      rw [hm, Entries.mem_keys_ofList]
      exact mem_keys_entriesOf.mpr ⟨x, hx, .inr ⟨hc, rfl⟩⟩
    have hplain := (AccessorName.isBelow_manyName_apiName_iff hc).mp (h.below _ hk)
    exact hn.symm.trans hplain

theorem companionKept_of_namespaced
    (hm : scope.methods = Entries.ofList (entriesOf name (accessorsOf name methods)))
    (hne : accessorsOf name methods ≠ []) (h : scope.Namespaced name methods) :
    CompanionKept name (accessorsOf name methods) where
  plain := h.plain hm hne
  takenBack := by
    intro hcreate before x after hacc hx hplain
    have hn := h.plain hm hne
    have hwx : Writes name x.1 (⟨"createMany", name⟩ : AccessorName).apiName :=
      (writes_createMany_iff hn).mpr (.inr hx)
    have hmem : x ∈ accessorsOf name methods :=
      hacc ▸ List.mem_append_right _ List.mem_cons_self
    obtain ⟨e, hf, harray⟩ := h.createMany (exists_mem_accessorsOf_iff.mp hcreate)
    rw [← apiName_createMany] at hf
    obtain ⟨before', y, after', e', hacc', hafter, hf', he⟩ := exists_last_writer hm ⟨x, hmem, hwx⟩
    obtain rfl : e = e' := Option.some.inj (hf.symm.trans hf')
    rcases eq_or_mem_of_append_cons_eq (hacc.symm.trans hacc') with rfl | hy | hlater
    · rcases he with ⟨-, rfl⟩ | ⟨⟨-, hc, he⟩, -⟩
      · exact absurd (hplain.symm.trans harray) (by decide)
      · exact absurd (he.symm.trans hx.symm) (manyName_ne hc)
    · refine ⟨y, hy, (writes_createMany_iff hn).mp ?_⟩
      exact writes_apiName_iff.mpr (he.imp And.left And.left)
    · exact absurd hwx (hafter x hlater)

theorem namespaced_of_companionKept
    (hm : scope.methods = Entries.ofList (entriesOf name (accessorsOf name methods)))
    (h : CompanionKept name (accessorsOf name methods)) : scope.Namespaced name methods where
  below k hk := by
    rw [hm, Entries.mem_keys_ofList] at hk
    obtain ⟨x, -, rfl | ⟨hc, rfl⟩⟩ := mem_keys_entriesOf.mp hk
    · exact AccessorName.isBelow_apiName _
    · exact (AccessorName.isBelow_manyName_apiName_iff hc).mpr h.plain
  createMany hcreate := by
    have hcreate := exists_mem_accessorsOf_iff.mpr hcreate
    obtain ⟨x, hx, hxc⟩ := hcreate
    have hw : Writes name x.1 (⟨"createMany", name⟩ : AccessorName).apiName :=
      (writes_createMany_iff h.plain).mpr (.inl hxc)
    obtain ⟨before, y, after, e, hacc, hafter, hf, he⟩ := exists_last_writer hm ⟨x, hx, hw⟩
    refine ⟨e, apiName_createMany name ▸ hf, ?_⟩
    rcases he with ⟨hs, rfl⟩ | ⟨-, hmany⟩
    · -- A plain accessor would be followed by one that writes the name again.
      cases hplain : y.2.returnsArray with
      | true => exact hplain
      | false =>
        have hy : y.1 = "createMany" :=
          ((AccessorName.sharesName_iff (by decide)).mp hs.symm).symm
        obtain ⟨z, hz, hzw⟩ := h.takenBack ⟨x, hx, hxc⟩ before y after hacc hy hplain
        exact absurd ((writes_createMany_iff h.plain).mpr hzw) (hafter z hz)
    · exact hmany

/-- An accepted scope has its methods below its name and a companion for `create`, exactly if its
name has no `create` in it and each accessor that takes the name of the companion is followed by one
that takes it again. -/
theorem namespaced_iff
    (hs : Entries.find? name (groupScopes r model).1.scopes = some (some scope)) :
    scope.Namespaced name model.methods ↔
      CompanionKept name (accessorsOf name model.methods) :=
  ⟨companionKept_of_namespaced (methods_groupScopes hs) (accessorsOf_ne_nil hs),
    namespaced_of_companionKept (methods_groupScopes hs)⟩

/-- It is enough that `create` comes last. -/
theorem CompanionKept.of_create_last {x : String × Method}
    (hn : Text.contains name "create" = false) (hl : accessors.getLast? = some x)
    (hx : x.1 = "create") : CompanionKept name accessors where
  plain := hn
  takenBack _ before y after hacc hy _ := by
    obtain ⟨front, hfront⟩ := List.getLast?_eq_some_iff.mp hl
    rcases eq_or_mem_of_append_cons_eq (hacc.symm.trans hfront) with rfl | hmem | hmem
    · exact absurd (hx.symm.trans hy) (by decide)
    · exact ⟨x, hmem, .inl hx⟩
    · exact (List.not_mem_nil hmem).elim

/-- An accessor `createMany` that comes before `create` gives way to the companion. -/
theorem namespaced_iff_note :
    DescribesScope (rawScoped "tags" ["prototype.__get__tags", "prototype.__createMany__tags",
        "prototype.__create__tags"]) "Note" "tags" fun note scope =>
      scope.methods.keys = ["tags", "tags.createMany", "tags.createManyMany", "tags.create"] ∧
        scope.Namespaced "tags" note.methods := by
  have h : DescribesScope (rawScoped "tags" ["prototype.__get__tags",
      "prototype.__createMany__tags", "prototype.__create__tags"]) "Note" "tags" fun note scope =>
        scope.methods.keys = ["tags", "tags.createMany", "tags.createManyMany", "tags.create"] ∧
          ∃ x, (accessorsOf "tags" note.methods).getLast? = some x ∧ x.1 = "create" := by
    decide +kernel
  obtain ⟨service, hb, note, hn, scope, hs, hkeys, x, hl, hx⟩ := h
  have hkept : CompanionKept "tags" (accessorsOf "tags" note.methods) :=
    .of_create_last (by decide) hl hx
  exact ⟨service, hb, note, hn, scope, hs, hkeys, (namespaced_iff hs).mpr hkept⟩

/-- A companion that is not below its scope, whose name has `create` in it, and a companion that is
written over by an accessor of its name. -/
theorem not_namespaced :
    DescribesScope (rawScoped "createdTags" ["prototype.__create__createdTags"]) "Note"
        "createdTags" (fun note scope =>
          scope.methods.keys = ["createdTags.create", "createManydTags.create"] ∧
            ¬ scope.Namespaced "createdTags" note.methods) ∧
      DescribesScope (rawScoped "tags" ["prototype.__create__tags",
        "prototype.__createMany__tags"]) "Note" "tags"
        (fun note scope =>
          scope.methods.keys = ["tags.create", "tags.createMany", "tags.createManyMany"] ∧
            ¬ scope.Namespaced "tags" note.methods) := by
  constructor
  · have h : DescribesScope (rawScoped "createdTags" ["prototype.__create__createdTags"]) "Note"
        "createdTags" fun _ scope =>
          scope.methods.keys = ["createdTags.create", "createManydTags.create"] := by
      decide +kernel
    refine h.mono fun note scope hk => ⟨hk, fun hs => ?_⟩
    have hmany : manyName "createdTags" ++ ".create" = "createManydTags.create" := by decide
    have hmem : manyName "createdTags" ++ ".create" ∈ scope.methods.keys := by
      rw [hmany, hk]
      decide
    exact not_isBelow_manyName_append (by decide) ".create" (hs.below _ hmem)
  · have h : DescribesScope (rawScoped "tags" ["prototype.__create__tags",
        "prototype.__createMany__tags"]) "Note" "tags" fun note scope =>
          scope.methods.keys = ["tags.create", "tags.createMany", "tags.createManyMany"] ∧
          (∃ m ∈ note.methods, AccessorName.parse? m.name = some ⟨"create", "tags"⟩) ∧
          ∃ e, Entries.find? "tags.createMany" scope.methods = some e ∧
            e.returnsArray = false := by
      decide +kernel
    refine h.mono fun note scope ⟨hk, hcreate, e, hf, he⟩ => ⟨hk, fun hs => ?_⟩
    obtain ⟨e', hf', he'⟩ := hs.createMany hcreate
    obtain rfl : e = e' := Option.some.inj (hf.symm.trans hf')
    exact absurd (he.symm.trans he') (by decide)

end RemoteBindings
