import Mathlib.Data.Nat.Find
import RemoteBindings.Proofs.Faults

/-!
# Where a pass stops

A pass over a method goes through the arguments that it considers and stops at the first that
`Offends`: its type has no counterpart, or it is a body and there was one before
(`argumentsOf_eq_error_iff`). The return comes last. A fault that names a type has a text for it
only if the type holds no integer that is too long to be written, so `fault_work_iff` says of a type
without a counterpart that this is the fault, or that there is none that can be reported. A pass
that stops, or makes no selector, leaves the method as it was.
-/

namespace RemoteBindings.ObjC

variable {r : Registry} {model : Model} {m : Method} {pass : Pass} {ps : List Param}
  {p q : Param} {e : Fault} {hasBody : Bool} {i : Nat}

/-- A parameter that a pass does not get beyond; `hasBody` says whether there was a body before. -/
def Offends (r : Registry) (model : Model) (hasBody : Bool) (p : Param) : Prop :=
  parameterType? r model p = none ∨ (p.isBody = true ∧ hasBody = true)

/-- A pass over some parameters does not get beyond the one at place `i`. -/
def OffendsAt (r : Registry) (model : Model) (hasBody : Bool) (ps : List Param) (i : Nat)
    (p : Param) : Prop :=
  ps[i]? = some p ∧ Offends r model (hasBody || (ps.take i).any Param.isBody) p

/-- The place is the first that a pass does not get beyond. -/
structure FirstOffence (r : Registry) (model : Model) (hasBody : Bool) (ps : List Param) (i : Nat)
    (p : Param) : Prop where
  offends : OffendsAt r model hasBody ps i p
  least : ∀ j < i, ∀ q, ¬ OffendsAt r model hasBody ps j q

/-- The fault of a parameter that a pass does not get beyond. That it has no type comes first. -/
def parameterFault (r : Registry) (model : Model) (m : Method) (p : Param) : Fault :=
  match parameterType? r model p with
  | none =>
    if p.type.hasTypeName then .unsupportedArgument p.type.typeName p.arg m.name model.name
    else .unwritable
  | some _ => .multipleBodies m.name model.name

/-- The fault of a return without a type. -/
def returnFault (model : Model) (m : Method) : Fault :=
  if m.result.type.hasTypeName then .unsupportedReturn m.result.type.typeName m.name model.name
  else .unwritable

/-! ## Arguments -/

theorem offendsAt_cons_zero :
    OffendsAt r model hasBody (p :: ps) 0 q ↔ p = q ∧ Offends r model hasBody q := by
  simp only [OffendsAt, List.getElem?_cons_zero, Option.some_inj, List.take_zero, List.any_nil,
    Bool.or_false]

theorem offendsAt_cons_succ :
    OffendsAt r model hasBody (p :: ps) (i + 1) q ↔
      OffendsAt r model (hasBody || p.isBody) ps i q := by
  rw [OffendsAt, OffendsAt, List.getElem?_cons_succ, List.take_succ_cons, List.any_cons,
    Bool.or_assoc]

theorem firstOffence_cons :
    FirstOffence r model hasBody (p :: ps) i q ↔
      (i = 0 ∧ p = q ∧ Offends r model hasBody q) ∨
        (¬ Offends r model hasBody p ∧
          ∃ j, i = j + 1 ∧ FirstOffence r model (hasBody || p.isBody) ps j q) := by
  constructor
  · rintro ⟨hoff, hleast⟩
    cases i with
    | zero => exact .inl ⟨rfl, offendsAt_cons_zero.mp hoff⟩
    | succ j =>
      have hp : ¬ Offends r model hasBody p := fun ho =>
        hleast 0 (Nat.succ_pos j) p (offendsAt_cons_zero.mpr ⟨rfl, ho⟩)
      exact .inr ⟨hp, j, rfl, offendsAt_cons_succ.mp hoff, fun k hk q ho =>
        hleast (k + 1) (Nat.succ_lt_succ hk) q (offendsAt_cons_succ.mpr ho)⟩
  · rintro (⟨rfl, hoff⟩ | ⟨hp, j, rfl, hoff, hleast⟩)
    · exact ⟨offendsAt_cons_zero.mpr hoff, fun _ hj => absurd hj (Nat.not_lt_zero _)⟩
    · refine ⟨offendsAt_cons_succ.mpr hoff, fun k hk q ho => ?_⟩
      cases k with
      | zero =>
        obtain ⟨rfl, ho⟩ := offendsAt_cons_zero.mp ho
        exact hp ho
      | succ k => exact hleast k (Nat.lt_of_succ_lt_succ hk) q (offendsAt_cons_succ.mp ho)

/-- The head offends, or the first that does is one of the rest. -/
theorem exists_firstOffence_cons {holds : Param → Prop} :
    (∃ i q, FirstOffence r model hasBody (p :: ps) i q ∧ holds q) ↔
      (Offends r model hasBody p ∧ holds p) ∨
        (¬ Offends r model hasBody p ∧
          ∃ i q, FirstOffence r model (hasBody || p.isBody) ps i q ∧ holds q) := by
  simp only [firstOffence_cons]
  constructor
  · rintro ⟨i, q, ⟨rfl, rfl, ho⟩ | ⟨hn, j, rfl, hj⟩, hq⟩
    · exact .inl ⟨ho, hq⟩
    · exact .inr ⟨hn, j, q, hj, hq⟩
  · rintro (⟨ho, hp⟩ | ⟨hn, j, q, hj, hq⟩)
    · exact ⟨0, p, .inl ⟨rfl, rfl, ho⟩, hp⟩
    · exact ⟨j + 1, q, .inr ⟨hn, j, rfl, hj⟩, hq⟩

theorem argumentOf_eq_error_iff :
    argumentOf r model m p = .error e ↔
      parameterType? r model p = none ∧ e = parameterFault r model m p := by
  simp only [argumentOf, parameterFault]
  rw [← parameterType?]
  cases parameterType? r model p with
  | none =>
    rw [and_iff_right rfl, Except.error.injEq]
    exact eq_comm
  | some type => simp

/-- The first argument at fault decides. -/
theorem argumentsOf_eq_error_iff :
    argumentsOf r model m hasBody ps = .error e ↔
      ∃ i p, FirstOffence r model hasBody ps i p ∧ e = parameterFault r model m p := by
  induction ps generalizing hasBody with
  | nil =>
    constructor
    · intro h
      cases h
    · rintro ⟨i, p, h, -⟩
      cases h.offends.1
  | cons p ps ih =>
    -- What the rest meets depends on the head through `hasBody` only.
    rw [exists_firstOffence_cons, ← ih, argumentsOf]
    cases ha : argumentOf r model m p with
    | error f =>
      obtain ⟨ht, rfl⟩ := argumentOf_eq_error_iff.mp ha
      have ho : Offends r model hasBody p := .inl ht
      simp [ho, eq_comm]
    | ok a =>
      obtain ⟨type, ht, rfl⟩ := argumentOf_eq_ok_iff.mp ha
      have hf : parameterFault r model m p = .multipleBodies m.name model.name := by
        simp [parameterFault, ht]
      have ho : Offends r model hasBody p ↔ p.isBody = true ∧ hasBody = true := by
        simp [Offends, ht]
      simp only [ho, hf, Bool.and_eq_true]
      by_cases hb : p.isBody = true ∧ hasBody = true
      · simp [hb, eq_comm]
      · simp only [hb, if_false, false_and, false_or, not_false_eq_true, true_and]
        cases argumentsOf r model m (hasBody || p.isBody) ps <;> simp

/-- If a pass does not get beyond some place, one of these comes first. -/
theorem exists_firstOffence (h : OffendsAt r model hasBody ps i p) :
    ∃ j q, FirstOffence r model hasBody ps j q := by
  classical
  have hex : ∃ i p, OffendsAt r model hasBody ps i p := ⟨i, p, h⟩
  obtain ⟨q, hq⟩ := Nat.find_spec hex
  exact ⟨Nat.find hex, q, hq, fun j hj q' ho => Nat.find_min hex hj ⟨q', ho⟩⟩

theorem exists_argumentsOf_eq_ok_iff :
    (∃ as, argumentsOf r model m hasBody ps = .ok as) ↔
      ∀ i p, ¬ OffendsAt r model hasBody ps i p := by
  constructor
  · rintro ⟨as, has⟩ i p ho
    obtain ⟨j, q, hfirst⟩ := exists_firstOffence ho
    rw [argumentsOf_eq_error_iff.mpr ⟨j, q, hfirst, rfl⟩] at has
    cases has
  · intro hnone
    cases has : argumentsOf r model m hasBody ps with
    | ok as => exact ⟨as, rfl⟩
    | error e =>
      obtain ⟨i, p, hfirst, -⟩ := argumentsOf_eq_error_iff.mp has
      exact absurd hfirst.offends (hnone i p)

/-! ## Passes -/

theorem returnTypeOf_eq_error_iff :
    returnTypeOf r model m = .error e ↔
      returnType? r model.name model.className m.returnsArray m.result.type = none ∧
        e = returnFault model m := by
  rw [returnTypeOf]
  cases returnType? r model.name model.className m.returnsArray m.result.type with
  | none =>
    rw [and_iff_right rfl, Except.error.injEq]
    exact eq_comm
  | some type => simp

theorem attempt_eq_error_iff (hu : m.name ∉ unboundMethods) :
    attempt r model m pass = .error e ↔
      argumentsOf r model m false (considered pass m) = .error e ∨
        (∃ as, argumentsOf r model m false (considered pass m) = .ok as) ∧
          returnTypeOf r model m = .error e := by
  simp only [attempt, List.contains_iff_mem, hu, if_false]
  cases argumentsOf r model m false (considered pass m) with
  | error f => simp
  | ok as =>
    cases returnTypeOf r model m with
    | error f => simp
    | ok type =>
      simp only
      split <;> simp

theorem work_of_not_selector {w : Worked}
    (h : ∀ s, attempt r model w.method pass ≠ .ok (.selector s)) :
    (work r model pass w).result = w := by
  unfold work
  split
  · rfl
  · rfl
  · rfl
  · exact absurd ‹_› (h _)

/-- The fault of a pass over a method that needs selectors, and what it leaves of the method if it
has a fault or makes no selector. -/
theorem fault_work_iff (r : Registry) (model : Model) (pass : Pass) (w : Worked)
    (hu : w.method.name ∉ unboundMethods) :
    (∀ e, (work r model pass w).fault = some e ↔
      (∃ i p, FirstOffence r model false (considered pass w.method) i p ∧
        e = parameterFault r model w.method p) ∨
      (∀ i p, ¬ OffendsAt r model false (considered pass w.method) i p) ∧
        returnType? r model.name model.className w.method.returnsArray w.method.result.type =
          none ∧
        e = returnFault model w.method) ∧
    ((work r model pass w).fault ≠ none ∨ (work r model pass w).result.gained = w.gained →
      (work r model pass w).result = w) := by
  constructor
  · intro e
    have hfault : (work r model pass w).fault = some e ↔
        attempt r model w.method pass = .error e := by
      rw [fault_work_eq, passFault]
      cases attempt r model w.method pass <;> simp
    rw [hfault, attempt_eq_error_iff hu, argumentsOf_eq_error_iff, exists_argumentsOf_eq_ok_iff,
      returnTypeOf_eq_error_iff]
  · intro h
    refine work_of_not_selector fun s hs => ?_
    have hmade : (work r model pass w).fault = none ∧
        (work r model pass w).result.gained = w.gained ++ [s] := by
      simp only [work, hs, true_and]
    rcases h with h | h
    · exact h hmade.1
    · rw [hmade.2] at h
      simp at h

/-- A class with a method of two bodies, of which the second one also has no type. -/
def rawTwoBodies : Value :=
  rawClass "Note" [(.text "methods", .list [.map [(.text "name", .text "merge"),
    (.text "accepts", .list
      [.map [(.text "arg", .text "data"), (.text "type", .text "object"),
          (.text "http", .map [(.text "source", .text "body")])],
        .map [(.text "arg", .text "patch"), (.text "type", .text "Moment"),
          (.text "http", .map [(.text "source", .text "body")])]])]])]

theorem fault_work_iff_merge :
    ∃ service, Descriptor.build (.list [rawTwoBodies]) = .ok service ∧
      ∃ e ∈ (describe service "").1.models, ∃ m ∈ e.2.methods, m.name ∉ unboundMethods ∧
        (work (registryOf service "") e.2 .all ⟨m, []⟩).fault.map Fault.message =
          some ("Unsupported argument type: \"Moment\" of argument: \"patch\" in method: " ++
            "\"merge\" of model: \"Note\"") ∧
        (∀ f, (work (registryOf service "") e.2 .all ⟨m, []⟩).fault = some f ↔
          (∃ i p, FirstOffence (registryOf service "") e.2 false (considered .all m) i p ∧
            f = parameterFault (registryOf service "") e.2 m p) ∨
          (∀ i p, ¬ OffendsAt (registryOf service "") e.2 false (considered .all m) i p) ∧
            returnType? (registryOf service "") e.2.name e.2.className m.returnsArray
              m.result.type = none ∧
            f = returnFault e.2 m) ∧
        ((work (registryOf service "") e.2 .all ⟨m, []⟩).fault ≠ none ∨
            (work (registryOf service "") e.2 .all ⟨m, []⟩).result.gained = [] →
          (work (registryOf service "") e.2 .all ⟨m, []⟩).result = ⟨m, []⟩) := by
  have h : ∃ service, Descriptor.build (.list [rawTwoBodies]) = .ok service ∧
      ∃ e ∈ (describe service "").1.models, ∃ m ∈ e.2.methods, m.name ∉ unboundMethods ∧
        (work (registryOf service "") e.2 .all ⟨m, []⟩).fault.map Fault.message =
          some ("Unsupported argument type: \"Moment\" of argument: \"patch\" in method: " ++
            "\"merge\" of model: \"Note\"") := by
    decide +kernel
  obtain ⟨service, hs, e, he, m, hm, hu, hf⟩ := h
  obtain ⟨hfault, hkept⟩ := fault_work_iff (registryOf service "") e.2 .all ⟨m, []⟩ hu
  exact ⟨service, hs, e, he, m, hm, hu, hf, hfault, hkept⟩

/-- A class with a method whose argument has the least integer that is too long as its type. -/
def rawUnwritable : Value :=
  rawClass "Note" [(.text "methods", .list [.map [(.text "name", .text "find"),
    (.text "accepts", .list [.map [(.text "arg", .text "since"),
      (.text "type", .int (Nat.pow 10 4300))]])]])]

/-- The first argument has no type, but the fault is not that of an argument without a type. -/
theorem fault_not_unsupportedArgument :
    ∃ service, Descriptor.build (.list [rawUnwritable]) = .ok service ∧
      ∃ e ∈ (describe service "").1.models, ∃ m ∈ e.2.methods, m.name ∉ unboundMethods ∧
        ∃ p, FirstOffence (registryOf service "") e.2 false (considered .all m) 0 p ∧
          parameterType? (registryOf service "") e.2 p = none ∧
          ∀ type, (work (registryOf service "") e.2 .all ⟨m, []⟩).fault ≠
            some (.unsupportedArgument type p.arg m.name e.2.name) := by
  have h : ∃ service, Descriptor.build (.list [rawUnwritable]) = .ok service ∧
      ∃ e ∈ (describe service "").1.models, ∃ m ∈ e.2.methods, m.name ∉ unboundMethods ∧
        (considered .all m).length = 1 ∧
        (∀ p ∈ considered .all m, parameterType? (registryOf service "") e.2 p = none) ∧
        (work (registryOf service "") e.2 .all ⟨m, []⟩).fault.map Fault.isReported =
          some false := by
    decide +kernel
  obtain ⟨service, hs, e, he, m, hm, hu, hlength, htype, hunreported⟩ := h
  obtain ⟨p, hp⟩ := List.length_eq_one_iff.mp hlength
  have htype := htype p (by rw [hp]; exact List.mem_singleton_self p)
  refine ⟨service, hs, e, he, m, hm, hu, p, ⟨⟨by rw [hp]; rfl, .inl htype⟩, ?_⟩, htype, ?_⟩
  · exact fun j hj => absurd hj (Nat.not_lt_zero j)
  · intro type hf
    rw [hf] at hunreported
    cases hunreported

end RemoteBindings.ObjC
