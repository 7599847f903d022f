import Mathlib.Data.List.Forall2
import RemoteBindings.ObjC.Selector

/-!
# Overloads of a method

A method has at most two selectors, one for each pass over it: its `overloads`. `Fits` says when
none of the passes can meet a fault: all types have a counterpart, and at most one argument is the
body. `attempt_isOk_iff` says it of one pass, which sees only the arguments that it considers.

`attempt_selector` takes a selector apart into the arguments and the return type that it is made of,
and `argumentsOf_forall₂` the arguments into the parameters. A selector does not depend on more of a
model than its name and its class (`overloads_congr`).
-/

namespace RemoteBindings.ObjC

variable {r : Registry} {model model' : Model} {m n : Method} {pass : Pass}

/-- The Objective-C type of a parameter in a model. -/
def parameterType? (r : Registry) (model : Model) (p : Param) : Option String :=
  argumentType? p.type p.arg (pointer (argumentClass r model.className p))

/-- What all selectors of a method need: types that have a counterpart, and one body at most. -/
structure Fits (r : Registry) (model : Model) (m : Method) : Prop where
  arguments : ∀ p ∈ m.accepts, p.isServerComputed = false → (parameterType? r model p).isSome
  oneBody : (m.accepts.countP fun p => !p.isServerComputed && p.isBody) ≤ 1
  result : (returnType? r model.name model.className m.returnsArray m.result.type).isSome

instance : Decidable (Fits r model m) :=
  decidable_of_iff (_ ∧ _ ∧ _) ⟨fun ⟨ha, hb, hr⟩ => ⟨ha, hb, hr⟩,
    fun h => ⟨h.arguments, h.oneBody, h.result⟩⟩

/-- The selector that a pass gains. -/
def Attempt.selectors : Attempt → List Selector
  | .selector s => [s]
  | _ => []

/-- The selectors of one pass, of which there is one at most. -/
def passSelectors (r : Registry) (model : Model) (m : Method) (pass : Pass) : List Selector :=
  match attempt r model m pass with
  | .ok a => a.selectors
  | .error _ => []

/-- The selectors of a method. -/
def overloads (r : Registry) (model : Model) (m : Method) : List Selector :=
  passSelectors r model m .requiredOnly ++
    if hasOptional m then passSelectors r model m .all else []

theorem fits_congr (hn : model.name = model'.name) (hc : model.className = model'.className) :
    Fits r model m ↔ Fits r model' m := by
  have h {a b : Model} (hn : a.name = b.name) (hc : a.className = b.className) (f : Fits r a m) :
      Fits r b m :=
    ⟨by simpa only [parameterType?, hc] using f.arguments, f.oneBody,
      by simpa only [hn, hc] using f.result⟩
  exact ⟨h hn hc, h hn.symm hc.symm⟩

/-! ## Arguments -/

theorem argumentOf_eq_ok_iff {p : Param} {a : Argument} :
    argumentOf r model m p = .ok a ↔ ∃ type, parameterType? r model p = some type ∧
      a = { arg := p.arg, name := parameterName p.arg, type
            value := sentValue type (pointer (argumentClass r model.className p))
              (parameterName p.arg)
            isBody := p.isBody } := by
  simp only [argumentOf, parameterType?]
  cases argumentType? p.type p.arg (pointer (argumentClass r model.className p)) <;>
    simp [eq_comm]

theorem argumentOf_isOk_iff {p : Param} :
    (∃ a, argumentOf r model m p = .ok a) ↔ (parameterType? r model p).isSome := by
  simp only [argumentOf_eq_ok_iff, Option.isSome_iff_exists]
  constructor
  · rintro ⟨_, type, h, -⟩
    exact ⟨type, h⟩
  · rintro ⟨type, h⟩
    exact ⟨_, type, h, rfl⟩

theorem argumentOf_congr (hn : model.name = model'.name) (hc : model.className = model'.className)
    (hm : m.name = n.name) (p : Param) : argumentOf r model m p = argumentOf r model' n p := by
  simp only [argumentOf, hn, hc, hm]

theorem argumentsOf_congr (hn : model.name = model'.name) (hc : model.className = model'.className)
    (hm : m.name = n.name) (hasBody : Bool) (ps : List Param) :
    argumentsOf r model m hasBody ps = argumentsOf r model' n hasBody ps := by
  induction ps generalizing hasBody with
  | nil => rfl
  | cons p ps ih => simp only [argumentsOf, argumentOf_congr hn hc hm, ih, hn, hm]

theorem argumentsOf_forall₂ {hasBody : Bool} {ps : List Param} {as : List Argument}
    (h : argumentsOf r model m hasBody ps = .ok as) :
    List.Forall₂ (fun p a => argumentOf r model m p = .ok a) ps as := by
  induction ps generalizing hasBody as with
  | nil => cases h; exact .nil
  | cons p ps ih =>
    simp only [argumentsOf] at h
    split at h
    · cases h
    · rename_i a ha
      split at h
      · cases h
      · split at h
        · cases h
        · rename_i as' has
          cases h
          exact .cons ha (ih has)

/-- Each argument is made of one of the parameters. -/
theorem argumentOf_of_mem {hasBody : Bool} {ps : List Param} {as : List Argument} {a : Argument}
    (h : argumentsOf r model m hasBody ps = .ok as) (ha : a ∈ as) :
    ∃ p ∈ ps, argumentOf r model m p = .ok a := by
  replace h := argumentsOf_forall₂ h
  induction h with
  | nil => cases ha
  | cons h _ ih =>
    rcases List.mem_cons.mp ha with rfl | ha
    · exact ⟨_, List.mem_cons_self, h⟩
    · obtain ⟨p, hp, h⟩ := ih ha
      exact ⟨p, List.mem_cons_of_mem _ hp, h⟩

/-- The arguments have types and, with the one that came before, no second body. -/
theorem argumentsOf_isOk_iff {hasBody : Bool} {ps : List Param} :
    (∃ as, argumentsOf r model m hasBody ps = .ok as) ↔
      (∀ p ∈ ps, (parameterType? r model p).isSome) ∧
        ps.countP Param.isBody + hasBody.toNat ≤ 1 := by
  induction ps generalizing hasBody with
  | nil => cases hasBody <;> simp [argumentsOf]
  | cons p ps ih =>
    rw [List.forall_mem_cons, List.countP_cons]
    simp only [argumentsOf]
    cases ha : argumentOf r model m p with
    | error e =>
      have hn : ¬ (parameterType? r model p).isSome := by
        rw [← argumentOf_isOk_iff (m := m), ha]
        simp
      simp [hn]
    | ok a =>
      have hs : (parameterType? r model p).isSome := argumentOf_isOk_iff.mp ⟨a, ha⟩
      have hb : a.isBody = p.isBody := by
        obtain ⟨type, -, rfl⟩ := argumentOf_eq_ok_iff.mp ha
        rfl
      simp only [hs, hb, true_and]
      by_cases hboth : (p.isBody && hasBody) = true
      · rw [if_pos hboth]
        simp only [Bool.and_eq_true] at hboth
        simp [hboth.1, hboth.2]
      · have hsum : (if p.isBody = true then 1 else 0) + hasBody.toNat =
            (hasBody || p.isBody).toNat := by
          revert hboth
          cases p.isBody <;> cases hasBody <;> decide
        rw [if_neg hboth, Nat.add_assoc, hsum, ← ih]
        cases argumentsOf r model m (hasBody || p.isBody) ps <;> simp

/-! ## Passes -/

/-- Both passes see all bodies, for a body is required. -/
theorem countP_isBody_considered (pass : Pass) (m : Method) :
    (considered pass m).countP Param.isBody =
      m.accepts.countP fun p => !p.isServerComputed && p.isBody := by
  rw [considered, List.countP_filter]
  refine List.countP_congr fun p _ => ?_
  simp only [Param.isRequired]
  cases p.isBody <;> cases p.isServerComputed <;> simp

theorem mem_considered_all {p : Param} :
    p ∈ considered .all m ↔ p ∈ m.accepts ∧ p.isServerComputed = false := by
  simp [considered]

theorem considered_requiredOnly (m : Method) :
    considered .requiredOnly m = (considered .all m).filter Param.isRequired := by
  rw [considered, considered, List.filter_filter]
  refine List.filter_congr fun p _ => ?_
  cases p.isRequired <;> simp

theorem Fits.considered (hf : Fits r model m) (pass : Pass) :
    ∀ p ∈ considered pass m, (parameterType? r model p).isSome := by
  intro p hp
  simp only [ObjC.considered, List.mem_filter, Bool.and_eq_true, Bool.not_eq_true'] at hp
  exact hf.arguments p hp.1 hp.2.1

/-- A method without optional arguments has the same arguments in both passes. -/
theorem considered_of_not_hasOptional (h : hasOptional m = false) (pass : Pass) :
    considered pass m = considered .all m := by
  refine List.filter_congr fun p hp => ?_
  have hp : ¬ (!p.isServerComputed && !p.isRequired) = true := fun ht =>
    absurd (List.any_eq_true.mpr ⟨p, hp, ht⟩) (by rw [← hasOptional, h]; exact Bool.false_ne_true)
  revert hp
  cases p.isServerComputed <;> cases p.isRequired <;> simp

theorem returnTypeOf_isOk_iff :
    (∃ type, returnTypeOf r model m = .ok type) ↔
      (returnType? r model.name model.className m.returnsArray m.result.type).isSome := by
  unfold returnTypeOf
  cases returnType? r model.name model.className m.returnsArray m.result.type <;> simp

/-- A pass over a method that needs selectors has no fault if the arguments that it considers and
the return have a type, and there is one body at most. -/
theorem attempt_isOk_iff (h : m.name ∉ unboundMethods) :
    (∃ a, attempt r model m pass = .ok a) ↔
      (∀ p ∈ considered pass m, (parameterType? r model p).isSome) ∧
        (m.accepts.countP fun p => !p.isServerComputed && p.isBody) ≤ 1 ∧
        (returnType? r model.name model.className m.returnsArray m.result.type).isSome := by
  have hs : (∃ as, argumentsOf r model m false (considered pass m) = .ok as) ↔ _ :=
    argumentsOf_isOk_iff
  rw [countP_isBody_considered, Bool.toNat_false, Nat.add_zero] at hs
  rw [← and_assoc, ← hs, ← returnTypeOf_isOk_iff]
  simp only [attempt, List.contains_iff_mem, h, if_false]
  cases argumentsOf r model m false (considered pass m) with
  | error e => simp
  | ok arguments =>
    cases returnTypeOf r model m with
    | error e => simp
    | ok type =>
      simp only [Except.ok.injEq, exists_eq', true_and, iff_true]
      split <;> exact ⟨_, rfl⟩

theorem attempt_of_unbound (h : m.name ∈ unboundMethods) (pass : Pass) :
    attempt r model m pass = .ok .unbound := by
  simp only [attempt, List.contains_iff_mem, h, if_true]

/-- The passes over a method have no fault exactly if it needs no selectors or fits. -/
theorem attempts_isOk_iff :
    ((∃ a, attempt r model m .requiredOnly = .ok a) ∧
        (hasOptional m = true → ∃ a, attempt r model m .all = .ok a)) ↔
      (m.name ∉ unboundMethods → Fits r model m) := by
  by_cases h : m.name ∈ unboundMethods
  · simp [attempt_of_unbound h, h]
  · simp only [attempt_isOk_iff h, h, not_false_eq_true, true_implies]
    constructor
    · rintro ⟨⟨hreq, hbody, hret⟩, hall⟩
      refine ⟨fun p hp hs => ?_, hbody, hret⟩
      cases ho : hasOptional m with
      | true => exact (hall ho).1 p (mem_considered_all.mpr ⟨hp, hs⟩)
      | false =>
        rw [considered_of_not_hasOptional ho] at hreq
        exact hreq p (mem_considered_all.mpr ⟨hp, hs⟩)
    · intro hf
      exact ⟨⟨hf.considered _, hf.oneBody, hf.result⟩,
        fun _ => ⟨hf.considered _, hf.oneBody, hf.result⟩⟩

/-- What a selector is made of. -/
theorem attempt_selector {s : Selector} (h : attempt r model m pass = .ok (.selector s)) :
    m.name ∉ unboundMethods ∧ ∃ arguments type,
      argumentsOf r model m false (considered pass m) = .ok arguments ∧
      returnType? r model.name model.className m.returnsArray m.result.type = some type ∧
      fullName m arguments ∉ withheldNames ∧ s = selectorOf model m arguments type := by
  unfold attempt at h
  split at h
  · cases h
  rename_i hn
  split at h
  · cases h
  rename_i arguments ha
  split at h
  · cases h
  rename_i type ht
  simp only at h
  split at h
  · cases h
  rename_i hw
  cases h
  refine ⟨by simpa using hn, arguments, type, ha, ?_, by simpa using hw, rfl⟩
  simp only [returnTypeOf] at ht
  split at ht
  · cases ht
  · cases ht
    assumption

theorem attempt_congr (hn : model.name = model'.name) (hc : model.className = model'.className)
    (pass : Pass) : attempt r model m pass = attempt r model' m pass := by
  simp only [attempt, argumentsOf_congr hn hc rfl, returnTypeOf, selectorOf, hn, hc]

theorem overloads_congr (hn : model.name = model'.name) (hc : model.className = model'.className) :
    overloads r model m = overloads r model' m := by
  simp only [overloads, passSelectors, attempt_congr hn hc]

theorem mem_passSelectors {s : Selector} :
    s ∈ passSelectors r model m pass ↔ attempt r model m pass = .ok (.selector s) := by
  unfold passSelectors
  cases attempt r model m pass with
  | error e => simp
  | ok a => cases a <;> simp [Attempt.selectors, eq_comm]

/-- A selector of a method comes of a pass over it. -/
theorem mem_overloads {s : Selector} :
    s ∈ overloads r model m ↔ ∃ pass, (pass = .all → hasOptional m = true) ∧
      attempt r model m pass = .ok (.selector s) := by
  rw [overloads, List.mem_append, mem_passSelectors]
  constructor
  · rintro (h | h)
    · exact ⟨.requiredOnly, by simp, h⟩
    · split at h
      · exact ⟨.all, fun _ => ‹_›, mem_passSelectors.mp h⟩
      · cases h
  · rintro ⟨_ | _, ho, h⟩
    · exact .inl h
    · exact .inr (by rw [if_pos (ho rfl)]; exact mem_passSelectors.mpr h)

/-- The overloads of a method have its name and its route. -/
theorem route_of_mem_overloads {s : Selector} (h : s ∈ overloads r model m) :
    s.rawName = m.name ∧ s.httpVerb = Text.upper m.http.verb ∧ s.httpPath = m.http.path := by
  obtain ⟨pass, -, ha⟩ := mem_overloads.mp h
  obtain ⟨-, arguments, type, -, -, -, rfl⟩ := attempt_selector ha
  exact ⟨rfl, rfl, rfl⟩

end RemoteBindings.ObjC
