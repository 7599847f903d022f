import RemoteBindings.ObjC.Class
import RemoteBindings.Proofs.Overloads
import RemoteBindings.Proofs.Run

/-!
# What synthesis makes of a model

`fault_synthesize`: synthesis of a model for which nothing has been synthesized ends without a fault
exactly if the model is `Supported` and its property types can be written into the report. Then
the result is `bound`, which says of each field what it is made of (`result_synthesize`): a method
is flagged if it has overloads, and the selectors are the overloads of the methods in turn.
-/

namespace RemoteBindings

namespace ObjC

variable {r : Registry} {model : Model} {m : Method} {pass : Pass}

/-- A model with a base class in the client library, and types that have a counterpart. -/
structure Supported (r : Registry) (model : Model) : Prop where
  base : model.baseModel = .text "Model" ∨ model.baseModel = .text "PersistedModel"
  properties : ∀ p ∈ model.properties, p.1 ≠ "id" → (propertyType? p.2.type).isSome
  methods : ∀ m ∈ model.methods, m.name ∉ unboundMethods → Fits r (named r model) m

/-- The types of the properties to be declared hold no integer that is too long to be written. -/
def PropertiesWritable (model : Model) : Prop :=
  ∀ p ∈ model.properties, p.1 ≠ "id" → p.2.type.isWritable

/-- Nothing has been synthesized for any of the methods. -/
def Unflagged (model : Model) : Prop := ∀ m ∈ model.methods, m.generated = false

/-- A method with the flag that it has after synthesis. -/
def flagged (r : Registry) (model : Model) (m : Method) : Method :=
  { m with generated := !(overloads r model m).isEmpty }

/-- The declarations of properties that all have a type. -/
def declared (ps : List (String × Property)) : List DeclaredProperty :=
  (ps.filter fun p => p.1 != "id").map fun p => ⟨p.1, (propertyType? p.2.type).getD ""⟩

/-- A model after synthesis without a fault. -/
def bound (r : Registry) (model : Model) : Model :=
  { named r model with
    baseClass := (baseClass? model.baseModel).getD ""
    declaredProperties := declared model.properties
    methods := model.methods.map (flagged r (named r model))
    selectors := model.selectors ++ model.methods.flatMap (overloads r (named r model)) }

/-! ## Bases and properties -/

theorem baseClass?_isSome_iff {v : Value} :
    (baseClass? v).isSome ↔ v = .text "Model" ∨ v = .text "PersistedModel" := by
  cases v with
  | text name =>
    simp only [baseClass?, knownBases, Value.text.injEq]
    by_cases h : name = "Model" ∨ name = "PersistedModel" <;> simp [h]
  | _ => simp [baseClass?]

theorem fault_withBase :
    (withBase model).fault = none ↔
      model.baseModel = .text "Model" ∨ model.baseModel = .text "PersistedModel" := by
  rw [← baseClass?_isSome_iff, withBase]
  cases baseClass? model.baseModel <;> simp

theorem result_withBase (h : (withBase model).fault = none) :
    (withBase model).result =
      { model with baseClass := (baseClass? model.baseModel).getD "" } := by
  unfold withBase at h ⊢
  cases hb : baseClass? model.baseModel with
  | none => simp [hb] at h
  | some cls => rfl

theorem fault_declare (modelName : String) (ps : List (String × Property)) :
    (declare modelName ps).fault = none ↔
      ∀ p ∈ ps, p.1 ≠ "id" → (propertyType? p.2.type).isSome ∧ p.2.type.isWritable = true := by
  induction ps with
  | nil => simp [declare]
  | cons p ps ih =>
    obtain ⟨name, p⟩ := p
    rw [List.forall_mem_cons, ← ih]
    simp only [declare, propertyTypeOf]
    by_cases hid : name = "id"
    · simp [hid]
    by_cases hw : p.type.isWritable = true
    · cases propertyType? p.type <;> simp [hid, hw]
    · simp [hid, hw]

theorem result_declare {modelName : String} {ps : List (String × Property)}
    (h : (declare modelName ps).fault = none) : (declare modelName ps).result = declared ps := by
  induction ps with
  | nil => rfl
  | cons p ps ih =>
    have ht := (fault_declare _ _).mp h
    rw [List.forall_mem_cons, ← fault_declare] at ht
    have ih := ih ht.2
    obtain ⟨name, p⟩ := p
    by_cases hid : name = "id"
    · simp [declare, declared, hid, ih]
    · obtain ⟨hs, hw⟩ := ht.1 hid
      obtain ⟨type, hs⟩ := Option.isSome_iff_exists.mp hs
      simp [declare, declared, hid, hw, propertyTypeOf, hs, ih]

instance : Decidable (Supported r model) :=
  decidable_of_iff ((baseClass? model.baseModel).isSome ∧ _ ∧ _)
    ⟨fun ⟨hb, hp, hm⟩ => ⟨baseClass?_isSome_iff.mp hb, hp, hm⟩,
      fun h => ⟨baseClass?_isSome_iff.mpr h.base, h.properties, h.methods⟩⟩

/-! ## Methods -/

/-- Whether a selector was synthesized before does not matter to a pass. -/
theorem attempt_generated (b : Bool) :
    attempt r model { m with generated := b } pass = attempt r model m pass := by
  have h (ps : List Param) : argumentsOf r model { m with generated := b } false ps =
      argumentsOf r model m false ps :=
    argumentsOf_congr (m := { m with generated := b }) (n := m) rfl rfl rfl false ps
  simp only [attempt, h]
  rfl

theorem fault_work {w : Worked} :
    (work r model pass w).fault = none ↔ ∃ a, attempt r model w.method pass = .ok a := by
  unfold work
  cases attempt r model w.method pass with
  | error e => simp
  | ok a => cases a <;> simp [Run.record]

theorem result_work {w : Worked} (h : (work r model pass w).fault = none) :
    (work r model pass w).result =
      ⟨{ w.method with
          generated := w.method.generated || !(passSelectors r model w.method pass).isEmpty },
        w.gained ++ passSelectors r model w.method pass⟩ := by
  obtain ⟨a, ha⟩ := fault_work.mp h
  unfold work passSelectors
  cases a <;> simp [ha, Attempt.selectors, Run.record]

theorem passSelectors_generated (b : Bool) :
    passSelectors r model { m with generated := b } pass = passSelectors r model m pass := by
  simp only [passSelectors, attempt_generated]

theorem overloads_flagged {model' : Model} :
    overloads r model (flagged r model' m) = overloads r model m := by
  simp only [overloads, flagged, passSelectors_generated]
  rfl

theorem fault_workBoth (hg : m.generated = false) :
    (workBoth r model m).fault = none ↔ (m.name ∉ unboundMethods → Fits r model m) := by
  rw [← attempts_isOk_iff]
  simp only [workBoth, hg, Bool.false_eq_true, if_false, Run.fault_after]
  cases ho : hasOptional m with
  | false => simp [fault_work]
  | true =>
    rw [if_pos rfl, Run.fault_bind, fault_work]
    refine and_congr_right fun h => ?_
    rw [result_work (fault_work.mpr h), fault_work, attempt_generated]
    simp

/-- The work on a method gains its overloads. -/
theorem result_workBoth (hg : m.generated = false) (h : (workBoth r model m).fault = none) :
    (workBoth r model m).result = ⟨flagged r model m, overloads r model m⟩ := by
  simp only [workBoth, hg, Bool.false_eq_true, if_false, Run.fault_after, Run.result_after] at h ⊢
  simp only [flagged, overloads]
  cases ho : hasOptional m with
  | false =>
    rw [ho, if_neg Bool.false_ne_true] at h
    simp [result_work h, hg]
  | true =>
    rw [ho, if_pos rfl] at h
    have h₁ := ((Run.fault_bind _ _ _).mp h).1
    have h₂ := ((Run.fault_bind _ _ _).mp h).2
    rw [if_pos rfl, Run.result_bind h, result_work h₂, result_work h₁]
    simp only [passSelectors_generated, hg, Bool.false_or, List.nil_append, if_true]
    cases passSelectors r model m .requiredOnly <;> rfl

theorem fault_workAll (hu : Unflagged model) :
    (workAll r model model.methods).fault = none ↔
      ∀ m ∈ model.methods, m.name ∉ unboundMethods → Fits r model m := by
  rw [workAll, Run.fault_each, List.forall_mem_map]
  exact forall₂_congr fun m hm => fault_workBoth (hu m hm)

theorem result_workAll (hu : Unflagged model) (h : (workAll r model model.methods).fault = none) :
    (workAll r model model.methods).result =
      model.methods.map fun m => ⟨flagged r model m, overloads r model m⟩ := by
  rw [workAll, Run.fault_each] at h
  rw [workAll, Run.result_each h, List.map_map]
  refine List.map_congr_left fun m hm => ?_
  exact result_workBoth (hu m hm) (h _ (List.mem_map_of_mem hm))

/-! ## Models -/

/-- A model of which all but the methods has been synthesized. -/
def prepared (r : Registry) (model : Model) : Model :=
  { named r model with
    baseClass := (baseClass? model.baseModel).getD ""
    declaredProperties := declared model.properties }

theorem fault_withProperties :
    (withProperties model).fault = none ↔ ∀ p ∈ model.properties, p.1 ≠ "id" →
      (propertyType? p.2.type).isSome ∧ p.2.type.isWritable = true := by
  rw [withProperties, Run.fault_bind, and_iff_left rfl, fault_declare]

theorem result_withProperties (h : (withProperties model).fault = none) :
    (withProperties model).result =
      { model with declaredProperties := declared model.properties } := by
  have hd := ((Run.fault_bind _ _ _).mp h).1
  rw [withProperties, Run.result_bind h, result_declare hd]

theorem fault_prepare :
    ((withBase (named r model)).bind id withProperties).fault = none ↔
      (model.baseModel = .text "Model" ∨ model.baseModel = .text "PersistedModel") ∧
        ∀ p ∈ model.properties, p.1 ≠ "id" →
          (propertyType? p.2.type).isSome ∧ p.2.type.isWritable = true := by
  rw [Run.fault_bind]
  refine (and_congr_right fun h => ?_).trans (and_congr_left fun _ => fault_withBase)
  rw [result_withBase h, fault_withProperties]
  rfl

theorem result_prepare (h : ((withBase (named r model)).bind id withProperties).fault = none) :
    ((withBase (named r model)).bind id withProperties).result = prepared r model := by
  have h₁ := ((Run.fault_bind _ _ _).mp h).1
  have h₂ := ((Run.fault_bind _ _ _).mp h).2
  rw [Run.result_bind h, result_withProperties h₂, result_withBase h₁]
  rfl

/-- Synthesis meets no fault exactly if everything in the model has a counterpart and the types of
its properties can be reported. -/
theorem fault_synthesize (hu : Unflagged model) :
    (synthesize r model).fault = none ↔ Supported r model ∧ PropertiesWritable model := by
  have hu : Unflagged (prepared r model) := hu
  have hm : (bindMethods r (prepared r model)).fault = none ↔
      ∀ m ∈ model.methods, m.name ∉ unboundMethods → Fits r (named r model) m := by
    rw [bindMethods, Run.fault_map, fault_workAll hu]
    exact forall₂_congr fun m _ => imp_congr_right fun _ => fits_congr rfl rfl
  rw [synthesize, Run.fault_after, Run.fault_bind]
  constructor
  · rintro ⟨h₁, h₂⟩
    rw [result_prepare h₁] at h₂
    obtain ⟨hb, hp⟩ := fault_prepare.mp h₁
    exact ⟨⟨hb, fun p hm hn => (hp p hm hn).1, hm.mp h₂⟩, fun p hm hn => (hp p hm hn).2⟩
  · rintro ⟨hs, hw⟩
    have h₁ := (fault_prepare (r := r)).mpr
      ⟨hs.base, fun p hm hn => ⟨hs.properties p hm hn, hw p hm hn⟩⟩
    exact ⟨h₁, by rw [result_prepare h₁]; exact hm.mpr hs.methods⟩

/-- A model after synthesis without a fault. -/
theorem result_synthesize (hu : Unflagged model) (h : (synthesize r model).fault = none) :
    (synthesize r model).result = bound r model := by
  have hu : Unflagged (prepared r model) := hu
  rw [synthesize, Run.fault_after] at h
  have h₁ := ((Run.fault_bind _ _ _).mp h).1
  have h₂ := ((Run.fault_bind _ _ _).mp h).2
  rw [synthesize, Run.result_after, Run.result_bind h, result_prepare h₁]
  rw [result_prepare h₁, bindMethods, Run.fault_map] at h₂
  rw [bindMethods, Run.result_map, result_workAll hu h₂, List.map_map, List.flatMap_map]
  have ho : overloads r (prepared r model) = overloads r (named r model) :=
    funext fun m => overloads_congr rfl rfl
  have hf : flagged r (prepared r model) = flagged r (named r model) :=
    funext fun m => by rw [flagged, ho, flagged]
  simp only [Function.comp_def, ho, hf]
  rfl

end ObjC

end RemoteBindings
