import RemoteBindings.Proofs.FirstOccurrence
import RemoteBindings.Proofs.Scopes

/-!
# What grouping makes of a model

An accessor changes the value of its own scope and no other (`groupMethod_scopes_eq`): a scope that
comes up for the first time is opened, an accepted one gains the entries of the accessor, and a
rejected one stays without a value. So after some methods the map has the scopes of their accessors
in order of first occurrence, and each accepted scope has its stated target and the entries of its
own accessors (`Filed.groupMethods`). `scopes_groupScopes` puts this together for a whole model.
-/

namespace RemoteBindings

variable {r : Registry} {model : Model} {m : Method} {a : AccessorName} {name : String}
  {filed : List Method} {scope : Scope} {targets : Entries String (Option String)}

/-- The scopes of the accessors among some methods, in order of first occurrence. -/
def accessorScopes (ms : List Method) : List String :=
  (ms.filterMap fun m => (AccessorName.parse? m.name).map AccessorName.scope).eraseDups

/-- The target class that is stated for a scope, if it is not empty. -/
def statedTarget? (targets : Entries String (Option String)) (scope : String) : Option String :=
  (Entries.find? scope targets).join.filter (· != "")

/-- A method of a scope takes over the call of an accessor, and no flag. -/
structure TakesOver (accessor m : Method) : Prop where
  accepts : m.accepts = accessor.accepts
  returns : m.returns = accessor.returns
  isStatic : m.isStatic = accessor.isStatic
  http : m.http = accessor.http
  deprecated : m.deprecated = false
  isInternal : m.isInternal = false

/-- A scope of the given name has a method for each of its accessors among some methods, and each of
its methods takes over one of them. -/
structure HoldsAccessors (ms : List Method) (name : String) (scope : Scope) : Prop where
  complete : ∀ m ∈ ms, ∀ a, AccessorName.parse? m.name = some a → a.scope = name →
    a.apiName ∈ scope.methods.keys
  sound : ∀ e ∈ scope.methods, ∃ m ∈ ms, ∃ a, AccessorName.parse? m.name = some a ∧
    a.scope = name ∧ TakesOver m e.2

/-- What the map of scopes is when some methods have been filed. -/
structure Filed (r : Registry) (targets : Entries String (Option String)) (filed : List Method)
    (scopes : Entries String (Option Scope)) : Prop where
  keys : scopes.keys = accessorScopes filed
  accepted : ∀ name scope, Entries.find? name scopes = some (some scope) →
    targetOf r targets name = .ok scope.targetClass ∧ HoldsAccessors filed name scope

/-! ## Targets -/

theorem targetOf_eq (r : Registry) (targets : Entries String (Option String)) (name : String) :
    targetOf r targets name = match statedTarget? targets name with
      | none => .error .noTarget
      | some target =>
        if (r.resolve? target).isSome then .ok target else .error (.hiddenTarget target) := by
  rw [targetOf, statedTarget?]
  rcases Entries.find? name targets with _ | _ | target
  · rfl
  · rfl
  · by_cases ht : target = ""
    · subst ht
      rfl
    · have hf : (some (some target)).join.filter (· != "") = some target := by
        simp [Option.filter, ht]
      rw [hf]
      split <;> simp_all

theorem targetOf_eq_ok_iff {target : String} :
    targetOf r targets name = .ok target ↔
      statedTarget? targets name = some target ∧ (r.resolve? target).isSome = true := by
  rw [targetOf_eq]
  cases statedTarget? targets name with
  | none => simp
  | some stated =>
    by_cases hs : (r.resolve? stated).isSome = true
    · simp only [hs, if_true, Except.ok.injEq, Option.some.injEq]
      exact (and_iff_left_of_imp fun he => he ▸ hs).symm
    · simp only [hs, Bool.false_eq_true, if_false, Option.some.injEq, reduceCtorEq, false_iff]
      exact fun h => hs (h.1 ▸ h.2)

/-- A scope cannot be resolved exactly if no target is stated or the stated one is not exposed. -/
theorem isUnresolved_iff :
    isUnresolved r targets name = true ↔
      ∀ target, statedTarget? targets name = some target → r.resolve? target = none := by
  unfold isUnresolved
  rw [targetOf_eq]
  cases statedTarget? targets name with
  | none => simp [Except.isOk, Except.toBool]
  | some stated =>
    cases hs : r.resolve? stated <;> simp [hs, Except.isOk, Except.toBool]

/-! ## The entries of a scope -/

theorem takesOver_of_mem_scopeEntries {e : String × Method} (h : e ∈ scopeEntries a m) :
    TakesOver m e.2 := by
  unfold scopeEntries at h
  split at h
  · rcases List.mem_cons.mp h with rfl | h
    · exact ⟨rfl, rfl, rfl, rfl, rfl, rfl⟩
    · rw [List.mem_singleton.mp h]
      exact ⟨rfl, rfl, rfl, rfl, rfl, rfl⟩
  · rw [List.mem_singleton.mp h]
    exact ⟨rfl, rfl, rfl, rfl, rfl, rfl⟩

theorem apiName_mem_keys_scopeEntries (a : AccessorName) (m : Method) :
    a.apiName ∈ Entries.keys (scopeEntries a m) := by
  unfold scopeEntries
  split <;> exact List.mem_cons_self

theorem HoldsAccessors.of_fresh {target : String} (hn : name ∉ accessorScopes filed) :
    HoldsAccessors filed name { targetClass := target } where
  complete m hm a ha hname := by
    refine absurd (List.mem_eraseDups.mpr (List.mem_filterMap.mpr ⟨m, hm, ?_⟩)) hn
    rw [ha, Option.map_some, hname]
  sound e he := by cases he

/-- A method that is no accessor of a scope does not matter to it. -/
theorem HoldsAccessors.concat (h : HoldsAccessors filed name scope)
    (hm : ∀ a, AccessorName.parse? m.name = some a → a.scope ≠ name) :
    HoldsAccessors (filed ++ [m]) name scope where
  complete n hn a ha hname := by
    rcases List.mem_append.mp hn with hn | hn
    · exact h.complete n hn a ha hname
    · rw [List.mem_singleton.mp hn] at ha
      exact absurd hname (hm a ha)
  sound e he := by
    obtain ⟨n, hn, ha⟩ := h.sound e he
    exact ⟨n, List.mem_append_left _ hn, ha⟩

/-- An accessor of a scope adds its entries to it. -/
theorem HoldsAccessors.fileAccessor (h : HoldsAccessors filed a.scope scope)
    (ha : AccessorName.parse? m.name = some a) :
    HoldsAccessors (filed ++ [m]) a.scope (fileAccessor model a m scope).1 where
  complete n hn a' ha' hname := by
    refine Entries.mem_keys_foldl_put.mpr ?_
    rcases List.mem_append.mp hn with hn | hn
    · exact .inl (h.complete n hn a' ha' hname)
    · rw [List.mem_singleton.mp hn, ha] at ha'
      cases ha'
      exact .inr (apiName_mem_keys_scopeEntries a m)
  sound e he := by
    rcases Entries.mem_of_mem_foldl_put _ _ he with he | he
    · obtain ⟨n, hn, hacc⟩ := h.sound e he
      exact ⟨n, List.mem_append_left _ hn, hacc⟩
    · exact ⟨m, by simp, a, ha, rfl, takesOver_of_mem_scopeEntries he⟩

/-! ## One method -/

/-- The scope to which an accessor is added: the one that is known, or one that is opened. -/
def scopeFor (r : Registry) (model : Model) (name : String) : Option Scope :=
  match Entries.find? name model.scopes with
  | some known => known
  | none => (openScope r model name).1

theorem groupMethod_of_parse?_eq_none (ha : AccessorName.parse? m.name = none) :
    groupMethod r model m = ⟨m, true, model.scopes, []⟩ := by
  simp only [groupMethod, ha]

/-- An accessor changes its own scope alone. -/
theorem groupMethod_scopes_eq (ha : AccessorName.parse? m.name = some a) :
    (groupMethod r model m).scopes =
      Entries.put a.scope
        ((scopeFor r model a.scope).map fun scope => (fileAccessor model a m scope).1)
        model.scopes := by
  simp only [groupMethod, ha, scopeFor]
  cases Entries.find? a.scope model.scopes with
  | none =>
    simp only
    cases (openScope r model a.scope).1 <;> rfl
  | some known => cases known <;> rfl

/-- A rejected scope stays rejected, whatever method comes. -/
theorem find?_groupMethod_of_rejected (h : Entries.find? name model.scopes = some none) :
    Entries.find? name (groupMethod r model m).scopes = some none := by
  cases ha : AccessorName.parse? m.name with
  | none => rw [groupMethod_of_parse?_eq_none ha, h]
  | some a =>
    rw [groupMethod_scopes_eq ha, Entries.find?_put]
    split
    · rename_i hk
      rw [scopeFor, eq_of_beq hk, h]
      rfl
    · exact h

theorem targetOf_of_openScope (h : (openScope r model name).1 = some scope) :
    targetOf r model.scopeTargets name = .ok scope.targetClass ∧
      scope = { targetClass := scope.targetClass } := by
  unfold openScope at h
  cases ht : targetOf r model.scopeTargets name with
  | error e => simp [ht] at h
  | ok target =>
    rw [ht] at h
    cases h
    exact ⟨rfl, rfl⟩

theorem Filed.scopeFor (h : Filed r model.scopeTargets filed model.scopes)
    (hs : scopeFor r model name = some scope) :
    targetOf r model.scopeTargets name = .ok scope.targetClass ∧
      HoldsAccessors filed name scope := by
  unfold RemoteBindings.scopeFor at hs
  cases hf : Entries.find? name model.scopes with
  | some known =>
    rw [hf] at hs
    exact h.accepted name scope (hs ▸ hf)
  | none =>
    rw [hf] at hs
    obtain ⟨ht, he⟩ := targetOf_of_openScope hs
    have hn : name ∉ accessorScopes filed := h.keys ▸ Entries.find?_eq_none_iff.mp hf
    exact ⟨ht, he ▸ .of_fresh hn⟩

theorem accessorScopes_concat (filed : List Method) (m : Method) :
    accessorScopes (filed ++ [m]) = match AccessorName.parse? m.name with
      | none => accessorScopes filed
      | some a =>
        if (accessorScopes filed).contains a.scope then accessorScopes filed
        else accessorScopes filed ++ [a.scope] := by
  rw [accessorScopes, List.filterMap_append]
  cases ha : AccessorName.parse? m.name with
  | none => simp [ha, accessorScopes]
  | some a =>
    simp only [List.filterMap_cons, ha, Option.map_some, List.filterMap_nil, eraseDups_concat,
      accessorScopes, contains_eraseDups]

theorem Filed.groupMethod (h : Filed r model.scopeTargets filed model.scopes) (m : Method) :
    Filed r model.scopeTargets (filed ++ [m]) (groupMethod r model m).scopes := by
  cases ha : AccessorName.parse? m.name with
  | none =>
    rw [groupMethod_of_parse?_eq_none ha]
    refine ⟨by rw [accessorScopes_concat, ha]; exact h.keys, fun name scope hf => ?_⟩
    obtain ⟨ht, hs⟩ := h.accepted name scope hf
    exact ⟨ht, hs.concat fun a ha' => by simp [ha] at ha'⟩
  | some a =>
    rw [groupMethod_scopes_eq ha]
    refine ⟨?_, fun name scope hf => ?_⟩
    · rw [accessorScopes_concat, ha, Entries.keys_put, h.keys]
    · rw [Entries.find?_put] at hf
      split at hf
      · rename_i hk
        obtain ⟨before, hb, rfl⟩ := Option.map_eq_some_iff.mp (Option.some.inj hf)
        obtain ⟨ht, hs⟩ := h.scopeFor hb
        rw [← eq_of_beq hk]
        exact ⟨ht, hs.fileAccessor ha⟩
      · rename_i hk
        obtain ⟨ht, hs⟩ := h.accepted name scope hf
        refine ⟨ht, hs.concat fun a' ha' hname => ?_⟩
        rw [ha] at ha'
        cases ha'
        exact hk (beq_iff_eq.mpr hname)

/-! ## All methods -/

theorem Filed.groupMethods (h : Filed r model.scopeTargets filed model.scopes) (ms : List Method) :
    Filed r model.scopeTargets (filed ++ ms) (groupMethods r model ms).2.1 := by
  induction ms generalizing model filed with
  | nil => simpa [RemoteBindings.groupMethods] using h
  | cons m ms ih =>
    have hm := @ih { model with scopes := (RemoteBindings.groupMethod r model m).scopes } _
      (h.groupMethod m)
    rwa [List.append_assoc] at hm

theorem filed_groupScopes (r : Registry) (model : Model) :
    Filed r model.scopeTargets model.methods (groupScopes r model).1.scopes :=
  @Filed.groupMethods r { model with scopes := [] } [] ⟨rfl, fun _ _ h => by cases h⟩ model.methods

theorem mem_accessorScopes {ms : List Method} : name ∈ accessorScopes ms ↔
    ∃ m ∈ ms, ∃ a, AccessorName.parse? m.name = some a ∧ a.scope = name := by
  rw [accessorScopes, List.mem_eraseDups, List.mem_filterMap]
  simp only [Option.map_eq_some_iff]

/-- The scopes of a grouped model are those of its accessors in order of first occurrence. One has no
value exactly if its target class is not stated or not exposed; any other has the stated target, a
method for each of its accessors, and only methods that take over one of them. The methods of the
model stay in their places, accessors under their listed names. No call gives a value to a scope
without one. -/
theorem scopes_groupScopes (r : Registry) (model : Model) :
    (groupScopes r model).1.scopes.keys = accessorScopes model.methods ∧
    (∀ name ∈ accessorScopes model.methods,
      ∃ v, Entries.find? name (groupScopes r model).1.scopes = some v ∧
        (v = none ↔ ∀ target, statedTarget? model.scopeTargets name = some target →
          r.resolve? target = none) ∧
        ∀ scope, v = some scope →
          statedTarget? model.scopeTargets name = some scope.targetClass ∧
            HoldsAccessors model.methods name scope) ∧
    (groupScopes r model).1.methods = model.methods.map Method.listed ∧
    ∀ (start : Model) (m : Method) (name : String),
      Entries.find? name start.scopes = some none →
        Entries.find? name (groupMethod r start m).scopes = some none := by
  have hfiled := filed_groupScopes r model
  refine ⟨hfiled.keys, fun name hn => ?_, groupScopes_methods,
    fun start m name h => find?_groupMethod_of_rejected h⟩
  obtain ⟨m, hm, a, ha, rfl⟩ := mem_accessorScopes.mp hn
  obtain ⟨v, hf, hv⟩ := find?_groupScopes (r := r) hm ha
  refine ⟨v, hf, ?_, fun scope hs => ?_⟩
  · rw [← isUnresolved_iff, ← hv, Option.isNone_iff_eq_none]
  · obtain ⟨ht, hholds⟩ := hfiled.accepted a.scope scope (hs ▸ hf)
    exact ⟨(targetOf_eq_ok_iff.mp ht).1, hholds⟩

end RemoteBindings
