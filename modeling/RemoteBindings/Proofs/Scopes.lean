import RemoteBindings.Proofs.Entries
import RemoteBindings.Scope.Grouping

/-!
# Which scopes are rejected

Grouping keeps the methods of a model in order and gives each accessor its listed name
(`groupScopes_methods`). A scope is rejected exactly if its target class is not stated or not
exposed: that is decided by `targetOf` when its first accessor comes up and holds for all others
(`find?_groupScopes`).
-/

namespace RemoteBindings

variable {r : Registry} {model : Model} {m : Method} {a : AccessorName}

/-- A method as it is listed after its scope has been found. -/
def Method.listed (m : Method) : Method :=
  match AccessorName.parse? m.name with
  | none => m
  | some a => { m.fresh with name := a.listedName }

theorem groupMethod_method : (groupMethod r model m).method = m.listed := by
  unfold groupMethod Method.listed
  cases AccessorName.parse? m.name with
  | none => rfl
  | some a =>
    simp only
    split <;> rfl

theorem groupMethods_methods (ms : List Method) :
    (groupMethods r model ms).1 = ms.map Method.listed := by
  induction ms generalizing model with
  | nil => rfl
  | cons m ms ih => simp only [groupMethods, ih, groupMethod_method, List.map_cons]

theorem groupScopes_methods : (groupScopes r model).1.methods = model.methods.map Method.listed :=
  groupMethods_methods _

theorem groupAllScopes_models (models : Models) :
    (groupAllScopes r models).1 = models.map fun e => (e.1, (groupScopes r e.2).1) := by
  induction models with
  | nil => rfl
  | cons e models ih => simp only [groupAllScopes, ih, List.map_cons]

/-- Whether a scope cannot be resolved: its target class is not stated, or not exposed. -/
def isUnresolved (r : Registry) (targets : Entries String (Option String)) (scope : String) :
    Bool :=
  !(targetOf r targets scope).isOk

/-- The scopes without a value are those that cannot be resolved. -/
def Decided (r : Registry) (targets : Entries String (Option String))
    (scopes : Entries String (Option Scope)) : Prop :=
  ∀ scope v, Entries.find? scope scopes = some v → v.isNone = isUnresolved r targets scope

theorem openScope_isNone (r : Registry) (model : Model) (scope : String) :
    (openScope r model scope).1.isNone = isUnresolved r model.scopeTargets scope := by
  unfold openScope isUnresolved
  cases targetOf r model.scopeTargets scope <;> rfl

/-- An accessor puts its scope into the map, resolved or not; the other scopes stay. -/
theorem groupMethod_scopes (hd : Decided r model.scopeTargets model.scopes)
    (ha : AccessorName.parse? m.name = some a) :
    ∃ v, (groupMethod r model m).scopes = Entries.put a.scope v model.scopes ∧
      v.isNone = isUnresolved r model.scopeTargets a.scope := by
  simp only [groupMethod, ha]
  cases hf : Entries.find? a.scope model.scopes with
  | none =>
    have ho := openScope_isNone r model a.scope
    simp only
    cases hs : (openScope r model a.scope).1 with
    | none => exact ⟨none, rfl, by rw [← ho, hs]⟩
    | some s => exact ⟨_, rfl, by rw [← ho, hs]; rfl⟩
  | some known =>
    have ho := hd _ _ hf
    cases known with
    | none => exact ⟨none, rfl, ho⟩
    | some s => exact ⟨_, rfl, ho⟩

theorem groupMethod_decided (hd : Decided r model.scopeTargets model.scopes) :
    Decided r model.scopeTargets (groupMethod r model m).scopes := by
  cases ha : AccessorName.parse? m.name with
  | none => simpa only [groupMethod, ha] using hd
  | some a =>
    obtain ⟨v, hp, hv⟩ := groupMethod_scopes hd ha
    rw [hp]
    intro scope w hw
    rw [Entries.find?_put] at hw
    split at hw
    · rename_i hk
      cases hw
      rw [hv, eq_of_beq hk]
    · exact hd _ _ hw

/-- The scopes of all accessors are in the map, and those that are there stay. -/
theorem groupMethods_scopes (model : Model) {ms : List Method} {scope : String}
    (hd : Decided r model.scopeTargets model.scopes)
    (hs : (Entries.find? scope model.scopes).isSome ∨
      ∃ m ∈ ms, ∃ a, AccessorName.parse? m.name = some a ∧ a.scope = scope) :
    ∃ v, Entries.find? scope (groupMethods r model ms).2.1 = some v ∧
      v.isNone = isUnresolved r model.scopeTargets scope := by
  induction ms generalizing model with
  | nil =>
    obtain ⟨v, hv⟩ := Option.isSome_iff_exists.mp (hs.resolve_right (by simp))
    exact ⟨v, hv, hd _ _ hv⟩
  | cons m ms ih =>
    refine ih { model with scopes := (groupMethod r model m).scopes } (groupMethod_decided hd) ?_
    rcases hs with hs | ⟨n, hn, a, ha, rfl⟩
    · left
      cases ha : AccessorName.parse? m.name with
      | none => simpa only [groupMethod, ha] using hs
      | some a =>
        obtain ⟨v, hp, -⟩ := groupMethod_scopes hd ha
        simp only [hp, Entries.find?_put]
        split
        · rfl
        · exact hs
    · rcases List.mem_cons.mp hn with rfl | hn
      · left
        obtain ⟨v, hp, -⟩ := groupMethod_scopes hd ha
        simp [hp, Entries.find?_put]
      · exact .inr ⟨n, hn, a, ha, rfl⟩

/-- The scope of an accessor has no value exactly if it cannot be resolved. -/
theorem find?_groupScopes (hm : m ∈ model.methods) (ha : AccessorName.parse? m.name = some a) :
    ∃ v, Entries.find? a.scope (groupScopes r model).1.scopes = some v ∧
      v.isNone = isUnresolved r model.scopeTargets a.scope :=
  groupMethods_scopes { model with scopes := [] } (fun _ _ h => by cases h)
    (.inr ⟨m, hm, a, ha, rfl⟩)

end RemoteBindings
