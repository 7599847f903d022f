import RemoteBindings.Proofs.CompanionNames
import RemoteBindings.Proofs.Described
import RemoteBindings.Proofs.Grouping

/-!
# Which methods a scope ends up with

The methods of a scope are the entries of its accessors, put one after the other
(`methods_groupScopes`), so each name has what the last accessor that writes it has made of it
(`exists_last_writer`).
-/

namespace RemoteBindings

open AccessorName (SharesName)

variable {r : Registry} {model : Model} {m : Method} {a : AccessorName} {name k op op' : String}
  {filed : List Method} {scope : Scope} {accessors : List (String × Method)}

/-- The accessors of a scope among some methods, with their operations. -/
def accessorsOf (name : String) (methods : List Method) : List (String × Method) :=
  methods.filterMap fun m => (AccessorName.parse? m.name).bind fun a =>
    if a.scope = name then some (a.op, m) else none

/-- What the accessors of a scope put into it, in turn. -/
def entriesOf (name : String) (accessors : List (String × Method)) : List (String × Method) :=
  accessors.flatMap fun x => scopeEntries ⟨x.1, name⟩ x.2

theorem mem_accessorsOf {methods : List Method} {x : String × Method} :
    x ∈ accessorsOf name methods ↔
      x.2 ∈ methods ∧ AccessorName.parse? x.2.name = some ⟨x.1, name⟩ := by
  rw [accessorsOf, List.mem_filterMap]
  constructor
  · rintro ⟨m, hm, h⟩
    obtain ⟨a, ha, h⟩ := Option.bind_eq_some_iff.mp h
    split at h
    · rename_i hs
      cases h
      exact ⟨hm, by rw [ha, ← hs]⟩
    · cases h
  · rintro ⟨hm, ha⟩
    exact ⟨x.2, hm, by rw [ha, Option.bind_some, if_pos rfl]⟩

theorem accessorsOf_append (methods methods' : List Method) :
    accessorsOf name (methods ++ methods') =
      accessorsOf name methods ++ accessorsOf name methods' :=
  List.filterMap_append

theorem entriesOf_append (xs ys : List (String × Method)) :
    entriesOf name (xs ++ ys) = entriesOf name xs ++ entriesOf name ys :=
  List.flatMap_append

/-! ## Filing -/

/-- Each accepted scope holds what its accessors among some methods have put into it. -/
def HoldsEntries (filed : List Method) (scopes : Entries String (Option Scope)) : Prop :=
  ∀ name scope, Entries.find? name scopes = some (some scope) →
    scope.methods = Entries.ofList (entriesOf name (accessorsOf name filed))

theorem accessorsOf_eq_nil (hn : name ∉ accessorScopes filed) : accessorsOf name filed = [] := by
  refine List.eq_nil_iff_forall_not_mem.mpr fun x hx => hn ?_
  obtain ⟨hm, ha⟩ := mem_accessorsOf.mp hx
  exact mem_accessorScopes.mpr ⟨x.2, hm, _, ha, rfl⟩

/-- The scope to which an accessor is added holds what has been put into it. -/
theorem HoldsEntries.scopeFor (h : HoldsEntries filed model.scopes)
    (hf : Filed r model.scopeTargets filed model.scopes)
    (hs : scopeFor r model name = some scope) :
    scope.methods = Entries.ofList (entriesOf name (accessorsOf name filed)) := by
  unfold RemoteBindings.scopeFor at hs
  cases hk : Entries.find? name model.scopes with
  | some known =>
    rw [hk] at hs
    exact h name scope (hs ▸ hk)
  | none =>
    rw [hk] at hs
    have hn : name ∉ accessorScopes filed := hf.keys ▸ Entries.find?_eq_none_iff.mp hk
    rw [(targetOf_of_openScope hs).2, accessorsOf_eq_nil hn]
    rfl

theorem HoldsEntries.groupMethod (h : HoldsEntries filed model.scopes)
    (hf : Filed r model.scopeTargets filed model.scopes) (m : Method) :
    HoldsEntries (filed ++ [m]) (groupMethod r model m).scopes := by
  intro name scope hs
  rw [accessorsOf_append, entriesOf_append]
  cases ha : AccessorName.parse? m.name with
  | none =>
    rw [groupMethod_of_parse?_eq_none ha] at hs
    have hm : accessorsOf name [m] = [] := by simp [accessorsOf, ha]
    rw [hm, h name scope hs, entriesOf, entriesOf, List.flatMap_nil, List.append_nil]
  | some a =>
    rw [groupMethod_scopes_eq ha, Entries.find?_put] at hs
    split at hs
    · rename_i hk
      obtain rfl := eq_of_beq hk
      obtain ⟨before, hb, rfl⟩ := Option.map_eq_some_iff.mp (Option.some.inj hs)
      have hm : accessorsOf a.scope [m] = [(a.op, m)] := by simp [accessorsOf, ha]
      rw [hm, Entries.ofList, List.foldl_append, ← Entries.ofList, ← h.scopeFor hf hb, entriesOf,
        List.flatMap_singleton]
      rfl
    · rename_i hk
      have hm : accessorsOf name [m] = [] := by
        simp [accessorsOf, ha, show a.scope ≠ name from fun he => hk (beq_iff_eq.mpr he)]
      rw [hm, h name scope hs, entriesOf, entriesOf, List.flatMap_nil, List.append_nil]

theorem HoldsEntries.groupMethods (h : HoldsEntries filed model.scopes)
    (hf : Filed r model.scopeTargets filed model.scopes) (ms : List Method) :
    HoldsEntries (filed ++ ms) (groupMethods r model ms).2.1 := by
  induction ms generalizing model filed with
  | nil => simpa [RemoteBindings.groupMethods] using h
  | cons m ms ih =>
    have hm := @ih { model with scopes := (RemoteBindings.groupMethod r model m).scopes } _
      (h.groupMethod hf m) (hf.groupMethod m)
    rwa [List.append_assoc] at hm

/-- An accepted scope holds what its accessors have put into it. -/
theorem methods_groupScopes
    (hs : Entries.find? name (groupScopes r model).1.scopes = some (some scope)) :
    scope.methods = Entries.ofList (entriesOf name (accessorsOf name model.methods)) :=
  @HoldsEntries.groupMethods r { model with scopes := [] } [] (fun _ _ h => by cases h)
    ⟨rfl, fun _ _ h => by cases h⟩ model.methods name scope hs

/-! ## Writing -/

/-- Whether an accessor with the operation writes an entry of the name: its own, or its companion's.
-/
def Writes (name op k : String) : Prop :=
  (⟨op, name⟩ : AccessorName).apiName = k ∨
    Text.contains (⟨op, name⟩ : AccessorName).apiName "create" = true ∧
      manyName (⟨op, name⟩ : AccessorName).apiName = k

theorem writes_self : Writes name op (⟨op, name⟩ : AccessorName).apiName := .inl rfl

theorem mem_keys_scopeEntries :
    k ∈ Entries.keys (scopeEntries ⟨op, name⟩ m) ↔ Writes name op k := by
  unfold scopeEntries Writes
  split
  · rename_i h
    simp only [Entries.keys_cons, Entries.keys_nil, List.mem_cons, List.not_mem_nil, or_false, h,
      true_and, eq_comm]
  · rename_i h
    simp only [Entries.keys_cons, Entries.keys_nil, List.mem_cons, List.not_mem_nil, or_false, h,
      Bool.false_eq_true, false_and, eq_comm]

theorem mem_keys_entriesOf :
    k ∈ Entries.keys (entriesOf name accessors) ↔ ∃ x ∈ accessors, Writes name x.1 k := by
  rw [entriesOf, Entries.keys, List.map_flatMap, List.mem_flatMap]
  exact exists_congr fun x => and_congr_right fun _ => mem_keys_scopeEntries

theorem find?_apiName_scopeEntries (a : AccessorName) (m : Method) :
    Entries.find? a.apiName (scopeEntries a m).reverse = some (scopeMethod a m) := by
  unfold scopeEntries
  split
  · rename_i h
    simp [Entries.find?, manyName_ne h]
  · simp [Entries.find?]

theorem find?_companion_scopeEntries (h : Text.contains a.apiName "create" = true) (m : Method) :
    ∃ e, Entries.find? (manyName a.apiName) (scopeEntries a m).reverse = some e ∧
      e.returnsArray = true := by
  simp [scopeEntries, h, Entries.find?]

/-- A companion has the name of an accessor if it has the operation and no scope is in the way. -/
theorem manyName_apiName_eq_iff :
    (Text.contains (⟨op', name⟩ : AccessorName).apiName "create" = true ∧
        manyName (⟨op', name⟩ : AccessorName).apiName = (⟨op, name⟩ : AccessorName).apiName) ↔
      Text.contains name "create" = false ∧ Text.contains op' "create" = true ∧
        op = manyName op' := by
  constructor
  · rintro ⟨hc, he⟩
    have hn : Text.contains name "create" = false :=
      (AccessorName.isBelow_manyName_apiName_iff hc).mp
        (he ▸ AccessorName.isBelow_apiName ⟨op, name⟩)
    rw [AccessorName.contains_apiName, hn, Bool.false_or] at hc
    rw [AccessorName.manyName_apiName hn hc] at he
    have hs := AccessorName.apiName_eq_iff.mp he
    exact ⟨hn, hc, ((AccessorName.sharesName_iff (contains_manyName hc)).mp hs).symm⟩
  · rintro ⟨hn, hc, rfl⟩
    refine ⟨?_, AccessorName.manyName_apiName hn hc⟩
    rw [AccessorName.contains_apiName, hc, Bool.or_true]

/-- The name of an accessor is written by those that share it, and by companions that have it. -/
theorem writes_apiName_iff :
    Writes name op' (⟨op, name⟩ : AccessorName).apiName ↔
      SharesName op' op ∨ Text.contains name "create" = false ∧
        Text.contains op' "create" = true ∧ op = manyName op' :=
  or_congr AccessorName.apiName_eq_iff manyName_apiName_eq_iff

/-- The name of an accessor has what the last one that writes it has made of it: its entry, or that
of its companion. -/
theorem exists_last_writer (hm : scope.methods = Entries.ofList (entriesOf name accessors))
    (hw : ∃ x ∈ accessors, Writes name x.1 (⟨op, name⟩ : AccessorName).apiName) :
    ∃ before y after e, accessors = before ++ y :: after ∧
      (∀ z ∈ after, ¬ Writes name z.1 (⟨op, name⟩ : AccessorName).apiName) ∧
      Entries.find? (⟨op, name⟩ : AccessorName).apiName scope.methods = some e ∧
      (SharesName y.1 op ∧ e = scopeMethod ⟨y.1, name⟩ y.2 ∨
        (Text.contains name "create" = false ∧ Text.contains y.1 "create" = true ∧
          op = manyName y.1) ∧ e.returnsArray = true) := by
  obtain ⟨before, y, after, rfl, hy, hafter, hf⟩ :=
    Entries.exists_last_of_mem_keys (mem_keys_entriesOf.mpr hw)
  have hafter : ∀ z ∈ after, ¬ Writes name z.1 (⟨op, name⟩ : AccessorName).apiName :=
    fun z hz => mt mem_keys_scopeEntries.mpr (hafter z hz)
  rw [hm, entriesOf, hf]
  rcases mem_keys_scopeEntries.mp hy with hk | ⟨hc, hk⟩
  · refine ⟨before, y, after, _, rfl, hafter, ?_, .inl ⟨AccessorName.apiName_eq_iff.mp hk, rfl⟩⟩
    rw [← hk, find?_apiName_scopeEntries]
  · obtain ⟨e, he, hmany⟩ := find?_companion_scopeEntries hc y.2
    refine ⟨before, y, after, e, rfl, hafter, ?_, .inr ⟨manyName_apiName_eq_iff.mp ⟨hc, hk⟩, hmany⟩⟩
    rw [← hk, he]

/-- Of two places in a list one comes before the other, or they are the same. -/
theorem eq_or_mem_of_append_cons_eq {α : Type} {x y : α} {before after before' after' : List α}
    (h : before ++ x :: after = before' ++ y :: after') : x = y ∨ y ∈ after ∨ x ∈ after' := by
  rcases List.append_eq_append_iff.mp h with ⟨between, -, he⟩ | ⟨between, -, he⟩
  · cases between with
    | nil => exact .inl (List.cons.inj he).1
    | cons b between =>
      rw [(List.cons.inj he).2]
      exact .inr (.inl (List.mem_append_right _ List.mem_cons_self))
  · cases between with
    | nil => exact .inl (List.cons.inj he).1.symm
    | cons b between =>
      rw [(List.cons.inj he).2]
      exact .inr (.inr (List.mem_append_right _ List.mem_cons_self))

/-! ## Described models -/

/-- A service describes a model of the name with an accepted scope, and they have a property. -/
def DescribesScope (raw : Value) (key name : String) (p : Model → Scope → Prop) : Prop :=
  ∃ service, Descriptor.build raw = .ok service ∧
    ∃ model, Entries.find? key (describeModels service).1 = some model ∧
      ∃ scope, Entries.find? name (groupScopes (registryOf service "") model).1.scopes =
        some (some scope) ∧ p model scope

instance decidableExistsSomeSome {α : Type} (o : Option (Option α)) (p : α → Prop)
    [DecidablePred p] : Decidable (∃ a, o = some (some a) ∧ p a) :=
  match o with
  | some (some a) => decidable_of_iff (p a) (by simp)
  | some none => isFalse (by simp)
  | none => isFalse (by simp)

instance decidableDescribesScope (raw : Value) (key name : String) (p : Model → Scope → Prop)
    [∀ model, DecidablePred (p model)] : Decidable (DescribesScope raw key name p) :=
  inferInstanceAs (Decidable (∃ _, _ ∧ ∃ _, _ ∧ ∃ _, _ ∧ _))

theorem DescribesScope.mono {raw : Value} {key : String} {p q : Model → Scope → Prop}
    (h : DescribesScope raw key name p) (hpq : ∀ model scope, p model scope → q model scope) :
    DescribesScope raw key name q := by
  obtain ⟨service, hb, model, hm, scope, hs, hp⟩ := h
  exact ⟨service, hb, model, hm, scope, hs, hpq model scope hp⟩

/-- A class with the given methods and one scope, whose target is the class itself. -/
def rawScoped (scope : String) (methods : List String) : Value :=
  .list [rawClass "Note" [(.text "scopeTargets", .map [(.text scope, .text "Note")]),
    (.text "methods", .list (methods.map fun name => .map [(.text "name", .text name)]))]]

end RemoteBindings
