import RemoteBindings.Proofs.Service

/-!
# Synthesis of a model once more

A method that has a selector is passed over, and one for which there is none gains none again. So a
model that has been synthesized stays as it is (`synthesize_bound`).

After a fault the methods in front of it are flagged, and so is the method that has it if its first
pass made a selector before the second one stopped (`StopsHalfway`). Synthesis then passes over it,
and what it meets is the fault of the methods behind, if there is one (`fault_workAll_again`).
`fault_synthesize_again` says when a synthesis that is run again stops at the fault of the first
run.
-/

namespace RemoteBindings.ObjC

variable {r : Registry} {model model' : Model} {m : Method} {pass : Pass} {e : Fault}

/-- Names, base and properties of the classes, which come before the methods. -/
def prepare (r : Registry) (model : Model) : Run Model :=
  (withBase (named r model)).bind id withProperties

/-- Synthesis of the model stops at `m` with the selector for its required arguments made, before
the methods `later` have come up. -/
structure StopsHalfway (r : Registry) (model : Model) (m : Method) (later : List Method) :
    Prop where
  base : model.baseModel = .text "Model" ∨ model.baseModel = .text "PersistedModel"
  properties : ∀ p ∈ model.properties, p.1 ≠ "id" →
    (propertyType? p.2.type).isSome ∧ p.2.type.isWritable = true
  reached : ∃ before, model.methods = before ++ m :: later ∧
    ∀ n ∈ before, n.name ∉ unboundMethods → Fits r (named r model) n
  begun : passSelectors r (named r model) m .requiredOnly ≠ []
  stopped : ¬ Fits r (named r model) m

/-! ## Methods -/

theorem work_of_fault {w : Worked} (h : (work r model pass w).fault = some e) :
    (work r model pass w).result = w ∧ passSelectors r model w.method pass = [] := by
  unfold work passSelectors at *
  cases ha : attempt r model w.method pass with
  | error e => exact ⟨rfl, rfl⟩
  | ok a => cases a <;> simp [ha, Run.record] at h

theorem workBoth_generated (hg : m.generated = true) :
    (workBoth r model m).fault = none ∧ (workBoth r model m).result = ⟨m, []⟩ := by
  simp [workBoth, hg, Run.record]

/-- A method for which there is no selector stays as it is. -/
theorem flagged_of_isEmpty (hg : m.generated = false)
    (ho : (overloads r model m).isEmpty = true) : flagged r model m = m := by
  rw [flagged, ho, Bool.not_true, ← hg]

/-- The work on a method is done once. -/
theorem workBoth_flagged (hg : m.generated = false) (h : (workBoth r model m).fault = none) :
    (workBoth r model (flagged r model m)).fault = none ∧
      (workBoth r model (flagged r model m)).result = ⟨flagged r model m, []⟩ := by
  cases ho : (overloads r model m).isEmpty with
  | false => exact workBoth_generated (by rw [flagged, ho]; rfl)
  | true =>
    rw [flagged_of_isEmpty hg ho, result_workBoth hg h, flagged_of_isEmpty hg ho]
    exact ⟨h, by rw [List.isEmpty_iff.mp ho]⟩

/-- A method that has the fault keeps what its first pass made. -/
theorem result_workBoth_of_fault (hg : m.generated = false)
    (h : (workBoth r model m).fault = some e) :
    (workBoth r model m).result =
      ⟨{ m with generated := !(passSelectors r model m .requiredOnly).isEmpty },
        passSelectors r model m .requiredOnly⟩ := by
  simp only [workBoth, hg, Bool.false_eq_true, if_false, Run.fault_after, Run.result_after] at h ⊢
  cases hf : (work r model .requiredOnly ⟨m, []⟩).fault with
  | some e' =>
    obtain ⟨hw, hp⟩ := work_of_fault hf
    have hr : (if hasOptional m = true then
        (work r model .requiredOnly ⟨m, []⟩).bind id (work r model .all)
      else work r model .requiredOnly ⟨m, []⟩).result = ⟨m, []⟩ := by
      split
      · rw [Run.bind_of_fault hf, id, hw]
      · exact hw
    rw [hr, hp, List.isEmpty_nil, Bool.not_true, ← hg]
  | none =>
    cases ho : hasOptional m with
    | false =>
      rw [ho, if_neg Bool.false_ne_true, hf] at h
      cases h
    | true =>
      rw [ho, if_pos rfl, Run.bind_of_fault_eq_none hf, Run.fault_after] at h
      rw [if_pos rfl, Run.bind_of_fault_eq_none hf, Run.result_after, (work_of_fault h).1,
        result_work hf, hg, Bool.false_or, List.nil_append]

theorem workAll_congr {ms : List Method} (hn : model.name = model'.name)
    (hc : model.className = model'.className) : workAll r model ms = workAll r model' ms := by
  have hw (pass : Pass) : work r model pass = work r model' pass :=
    funext fun w => by simp only [work, attempt_congr hn hc, hn]
  have hb (n : Method) : workBoth r model n = workBoth r model' n := by
    simp only [workBoth, hn, hw]
  simp only [workAll, hb]

/-- Methods that have been worked on are passed over. -/
theorem workAll_flagged {ms : List Method} (hg : ∀ n ∈ ms, n.generated = false)
    (h : ∀ n ∈ ms, (workBoth r model n).fault = none) :
    (workAll r model (ms.map (flagged r model))).fault = none ∧
      (workAll r model (ms.map (flagged r model))).result =
        ms.map fun n => ⟨flagged r model n, []⟩ := by
  have hw : ∀ w ∈ (ms.map (flagged r model)).map (fun n => (⟨n, []⟩ : Worked)),
      (workBoth r model w.method).fault = none := by
    simp only [List.forall_mem_map]
    exact fun n hn => (workBoth_flagged (hg n hn) (h n hn)).1
  refine ⟨(Run.fault_each _ _).mpr hw, ?_⟩
  rw [workAll, Run.result_each hw, List.map_map, List.map_map]
  exact List.map_congr_left fun n hn => (workBoth_flagged (hg n hn) (h n hn)).2

/-- The methods after work that a fault in `m` has stopped. -/
theorem methods_workAll_of_fault {before later : List Method}
    (hg : ∀ n ∈ before, n.generated = false) (h : ∀ n ∈ before, (workBoth r model n).fault = none)
    (hm : (workBoth r model m).fault = some e) :
    (workAll r model (before ++ m :: later)).result.map Worked.method =
      before.map (flagged r model) ++ (workBoth r model m).result.method :: later := by
  have hw : ∀ w ∈ before.map (fun n => (⟨n, []⟩ : Worked)),
      (workBoth r model w.method).fault = none := by
    simpa only [List.forall_mem_map] using h
  rw [workAll, List.map_append, List.map_cons, Run.result_each_append_cons hw (b := ⟨m, []⟩) hm,
    List.map_append, List.map_cons, List.map_map, List.map_map, List.map_map]
  congr 1
  · refine List.map_congr_left fun n hn => ?_
    simp only [Function.comp_apply, result_workBoth (hg n hn) (h n hn)]
  · simp [Function.comp_def]

/-- Work that a fault has stopped comes to this fault again, unless the method that has it is
flagged by now: then the methods behind it come up. -/
theorem fault_workAll_again {before later : List Method}
    (hg : ∀ n ∈ before ++ m :: later, n.generated = false)
    (h : ∀ n ∈ before, (workBoth r model n).fault = none)
    (hm : (workBoth r model m).fault = some e) :
    (workAll r model ((workAll r model (before ++ m :: later)).result.map Worked.method)).fault =
      if passSelectors r model m .requiredOnly = [] then some e
      else (workAll r model later).fault := by
  have hgb : ∀ n ∈ before, n.generated = false := fun n hn => hg n (List.mem_append_left _ hn)
  have hgm : m.generated = false := hg m (List.mem_append_right _ List.mem_cons_self)
  have hw : ∀ w ∈ (before.map (flagged r model)).map (fun n => (⟨n, []⟩ : Worked)),
      (workBoth r model w.method).fault = none :=
    (Run.fault_each _ _).mp (workAll_flagged hgb h).1
  rw [methods_workAll_of_fault hgb h hm, workAll, List.map_append, List.map_cons,
    Run.fault_each_append hw, result_workBoth_of_fault hgm hm]
  cases hp : passSelectors r model m .requiredOnly with
  | nil =>
    rw [if_pos rfl, List.isEmpty_nil, Bool.not_true, ← hgm]
    exact Run.fault_each_cons (a := (⟨m, []⟩ : Worked)) hm _
  | cons s ss =>
    rw [if_neg (List.cons_ne_nil s ss), List.isEmpty_cons, Bool.not_false]
    have hs : ∀ w ∈ [(⟨{ m with generated := true }, []⟩ : Worked)],
        (workBoth r model w.method).fault = none :=
      List.forall_mem_singleton.mpr (workBoth_generated rfl).1
    exact Run.fault_each_append hs _

theorem exists_of_fault_workAll {ms : List Method} (h : (workAll r model ms).fault = some e) :
    ∃ before m later, ms = before ++ m :: later ∧
      (∀ n ∈ before, (workBoth r model n).fault = none) ∧
      (workBoth r model m).fault = some e := by
  obtain ⟨ws, w, ws', hms, hbefore, hw⟩ := Run.exists_of_fault_each h
  obtain ⟨before, rest, rfl, rfl, hrest⟩ := List.map_eq_append_iff.mp hms
  obtain ⟨m, later, rfl, rfl, rfl⟩ := List.map_eq_cons_iff.mp hrest
  exact ⟨before, m, later, rfl, by simpa only [List.forall_mem_map] using hbefore, hw⟩

/-! ## Models -/

theorem synthesize_eq (r : Registry) (model : Model) :
    synthesize r model = ((prepare r model).bind id (bindMethods r)).after
      [.ofModel model.name "MODEL" "synthesizing types and selectors"] := rfl

theorem fault_prepare_eq (r : Registry) (model : Model) :
    (prepare r model).fault = match baseClass? model.baseModel with
      | none => some (.ofBase model.baseModel model.name)
      | some _ => (declare model.name model.properties).fault := by
  have hp (model : Model) :
      (withProperties model).fault = (declare model.name model.properties).fault := by
    unfold withProperties
    cases h : (declare model.name model.properties).fault with
    | some e => rw [Run.bind_of_fault h]
    | none => rw [Run.bind_of_fault_eq_none h]; rfl
  have hb : (named r model).baseModel = model.baseModel := rfl
  unfold prepare withBase
  rw [hb]
  cases baseClass? model.baseModel with
  | none => rfl
  | some cls => rw [Run.bind_of_fault_eq_none rfl, Run.fault_after, hp]; rfl

theorem fault_prepare_congr (hn : model.name = model'.name)
    (hb : model.baseModel = model'.baseModel) (hp : model.properties = model'.properties) :
    (prepare r model).fault = (prepare r model').fault := by
  rw [fault_prepare_eq, fault_prepare_eq, hn, hb, hp]

/-- Synthesis keeps what its first part reads. -/
theorem fault_prepare_synthesize (r : Registry) (model : Model) :
    (prepare r (synthesize r model).result).fault = (prepare r model).fault := by
  have hb : (prepare r (withBase (named r model)).result).fault = (prepare r model).fault := by
    unfold withBase
    split <;> exact fault_prepare_congr rfl rfl rfl
  have hp (x : Model) : (prepare r (withProperties x).result).fault = (prepare r x).fault :=
    Run.bind_keeps (p := fun y => (prepare r y).fault = (prepare r x).fault) rfl
      (fault_prepare_congr rfl rfl rfl)
  have hprep : (prepare r (prepare r model).result).fault = (prepare r model).fault :=
    Run.bind_keeps (p := fun y => (prepare r y).fault = (prepare r model).fault) hb
      ((hp _).trans hb)
  have hm (x : Model) : (prepare r (bindMethods r x).result).fault = (prepare r x).fault :=
    fault_prepare_congr rfl rfl rfl
  rw [synthesize_eq, Run.result_after]
  exact Run.bind_keeps (p := fun y => (prepare r y).fault = (prepare r model).fault) hprep
    ((hm _).trans hprep)

theorem bindMethods_prepared (r : Registry) (model : Model) :
    bindMethods r (prepared r model) = (workAll r (named r model) model.methods).map fun ws =>
      { prepared r model with
        methods := ws.map Worked.method
        selectors := model.selectors ++ ws.flatMap Worked.gained } := by
  have hw : workAll r (prepared r model) model.methods = workAll r (named r model) model.methods :=
    workAll_congr rfl rfl
  rw [← hw]
  rfl

/-- The fault of a synthesis: one in front of the methods, or theirs. -/
theorem fault_synthesize_eq (r : Registry) (model : Model) :
    (synthesize r model).fault =
      (prepare r model).fault.or (workAll r (named r model) model.methods).fault := by
  rw [synthesize_eq, Run.fault_after]
  cases h : (prepare r model).fault with
  | some e => rw [Run.bind_of_fault h]; rfl
  | none =>
    rw [Run.bind_of_fault_eq_none h, Run.fault_after, prepare, result_prepare h,
      bindMethods_prepared]
    rfl

theorem result_synthesize_eq (h : (prepare r model).fault = none) :
    (synthesize r model).result =
      { prepared r model with
        methods := (workAll r (named r model) model.methods).result.map Worked.method
        selectors := model.selectors ++
          (workAll r (named r model) model.methods).result.flatMap Worked.gained } := by
  rw [synthesize_eq, Run.result_after, Run.bind_of_fault_eq_none h, Run.result_after, prepare,
    result_prepare h, bindMethods_prepared]
  rfl

/-- A model that has been synthesized without a fault stays as it is. -/
theorem synthesize_bound (hu : Unflagged model) (h : (synthesize r model).fault = none) :
    (synthesize r (bound r model)).fault = none ∧
      (synthesize r (bound r model)).result = bound r model := by
  rw [fault_synthesize_eq, Option.or_eq_none_iff] at h
  have hp : (prepare r (bound r model)).fault = none := by
    rw [← h.1, fault_prepare_eq, fault_prepare_eq]
    rfl
  have hw : ∀ n ∈ model.methods, (workBoth r (named r model) n).fault = none := by
    have := (Run.fault_each _ _).mp h.2
    simpa only [List.forall_mem_map] using this
  obtain ⟨hf, hr⟩ := workAll_flagged hu hw
  have hm : workAll r (named r (bound r model)) (bound r model).methods =
      workAll r (named r model) (model.methods.map (flagged r (named r model))) :=
    workAll_congr rfl rfl
  refine ⟨by rw [fault_synthesize_eq, hp, hm, hf]; rfl, ?_⟩
  have hs : (model.methods.map fun n => (⟨flagged r (named r model) n, []⟩ : Worked)).flatMap
      Worked.gained = [] := by simp
  rw [result_synthesize_eq hp, hm, hr, List.map_map, hs, List.append_nil]
  rfl

/-! ## Faults -/

theorem fault_synthesize_methods (h : (prepare r model).fault = none) (ms : List Method) :
    (synthesize r { model with methods := ms }).fault = (workAll r (named r model) ms).fault := by
  have hp : (prepare r { model with methods := ms }).fault = (prepare r model).fault :=
    fault_prepare_congr rfl rfl rfl
  rw [fault_synthesize_eq, hp, h]
  exact congrArg Run.fault (workAll_congr rfl rfl)

theorem fault_synthesize_result (h : (prepare r model).fault = none) :
    (synthesize r (synthesize r model).result).fault =
      (workAll r (named r model)
        ((workAll r (named r model) model.methods).result.map Worked.method)).fault := by
  rw [fault_synthesize_eq, fault_prepare_synthesize, h, result_synthesize_eq h]
  exact congrArg Run.fault (workAll_congr rfl rfl)

theorem passSelectors_of_unbound (h : m.name ∈ unboundMethods) (pass : Pass) :
    passSelectors r model m pass = [] := by
  rw [passSelectors, attempt_of_unbound h]
  rfl

/-- Synthesis that has stopped halfway goes on behind the method. -/
theorem StopsHalfway.fault_again {later : List Method} (hu : Unflagged model)
    (hs : StopsHalfway r model m later) :
    (synthesize r (synthesize r model).result).fault =
      (synthesize r { model with methods := later }).fault := by
  have h : (prepare r model).fault = none := fault_prepare.mpr ⟨hs.base, hs.properties⟩
  obtain ⟨before, hms, hfits⟩ := hs.reached
  rw [Unflagged, hms] at hu
  have hb : ∀ n ∈ before, (workBoth r (named r model) n).fault = none := fun n hn =>
    (fault_workBoth (hu n (List.mem_append_left _ hn))).mpr (hfits n hn)
  have hm : (workBoth r (named r model) m).fault ≠ none := by
    rw [Ne, fault_workBoth (hu m (List.mem_append_right _ List.mem_cons_self))]
    intro hf
    exact hs.stopped (hf fun hunbound => hs.begun (passSelectors_of_unbound hunbound _))
  obtain ⟨e, hm⟩ := Option.ne_none_iff_exists'.mp hm
  rw [fault_synthesize_result h, fault_synthesize_methods h, hms, fault_workAll_again hu hb hm,
    if_neg hs.begun]

/-- Unless it stops halfway through a method, synthesis ends as before. -/
theorem fault_again_or_stopsHalfway (hu : Unflagged model) :
    (synthesize r (synthesize r model).result).fault = (synthesize r model).fault ∨
      ∃ m later, StopsHalfway r model m later := by
  cases h : (prepare r model).fault with
  | some e =>
    left
    rw [fault_synthesize_eq, fault_synthesize_eq, fault_prepare_synthesize, h]
    rfl
  | none =>
    have hself : (synthesize r model).fault = (workAll r (named r model) model.methods).fault :=
      fault_synthesize_methods h model.methods
    cases hf : (workAll r (named r model) model.methods).fault with
    | none =>
      left
      rw [hf] at hself
      rw [hself, result_synthesize hu hself]
      exact (synthesize_bound hu hself).1
    | some e =>
      obtain ⟨before, m, later, hms, hb, hm⟩ := exists_of_fault_workAll hf
      rw [Unflagged, hms] at hu
      by_cases hbegun : passSelectors r (named r model) m .requiredOnly = []
      · left
        rw [fault_synthesize_result h, hself, hf, hms, fault_workAll_again hu hb hm, if_pos hbegun]
      · right
        obtain ⟨hbase, hprops⟩ := fault_prepare.mp h
        refine ⟨m, later, hbase, hprops, ⟨before, hms, fun n hn => ?_⟩, hbegun, fun hfits => ?_⟩
        · exact (fault_workBoth (hu n (List.mem_append_left _ hn))).mp (hb n hn)
        · have hnone := (fault_workBoth (hu m (List.mem_append_right _ List.mem_cons_self))).mpr
            fun _ => hfits
          rw [hnone] at hm
          cases hm

/-- Synthesis that is run again stops at the same fault exactly if the first run has not stopped
halfway through a method, or the methods behind that one come to the same fault. -/
theorem fault_synthesize_again (hu : Unflagged model) :
    (synthesize r (synthesize r model).result).fault = (synthesize r model).fault ↔
      ∀ m later, StopsHalfway r model m later →
        (synthesize r { model with methods := later }).fault = (synthesize r model).fault := by
  constructor
  · intro h m later hs
    rw [← hs.fault_again hu, h]
  · intro hall
    rcases fault_again_or_stopsHalfway hu with h | ⟨m, later, hs⟩
    · exact h
    · exact (hs.fault_again hu).trans (hall m later hs)

/-- A class with the method `find`, which takes an argument of a type that has no counterpart. -/
def rawFind (required : Bool) : Value :=
  rawClass "Note" [(.text "methods", .list [.map [(.text "name", .text "find"),
    (.text "accepts", .list [.map [(.text "arg", .text "since"), (.text "type", .text "Moment"),
      (.text "required", .bool required)]])]])]

/-- A required argument stops the first pass, so the fault comes again. -/
theorem fault_synthesize_again_find :
    ∃ service, Descriptor.build (.list [rawFind true]) = .ok service ∧
      ∃ e ∈ (describe service "").1.models, Unflagged e.2 ∧
        (synthesize (registryOf service "") e.2).fault ≠ none ∧
        (synthesize (registryOf service "")
          (synthesize (registryOf service "") e.2).result).fault ≠ none ∧
        ((synthesize (registryOf service "")
            (synthesize (registryOf service "") e.2).result).fault =
            (synthesize (registryOf service "") e.2).fault ↔
          ∀ m later, StopsHalfway (registryOf service "") e.2 m later →
            (synthesize (registryOf service "") { e.2 with methods := later }).fault =
              (synthesize (registryOf service "") e.2).fault) := by
  have h : ∃ service, Descriptor.build (.list [rawFind true]) = .ok service ∧
      ∃ e ∈ (describe service "").1.models,
        (synthesize (registryOf service "") e.2).fault ≠ none ∧
        (synthesize (registryOf service "")
          (synthesize (registryOf service "") e.2).result).fault ≠ none := by
    decide +kernel
  obtain ⟨service, hs, e, he, h₁, h₂⟩ := h
  have hu : Unflagged e.2 := (fresh_describe e he).unflagged
  exact ⟨service, hs, e, he, hu, h₁, h₂, fault_synthesize_again hu⟩

/-- An optional argument stops the second pass, and then the method is passed over: synthesis that
is run again has no fault. -/
theorem no_fault_again :
    ∃ service, Descriptor.build (.list [rawFind false]) = .ok service ∧
      ∃ e ∈ (describe service "").1.models, Unflagged e.2 ∧
        (synthesize (registryOf service "") e.2).fault ≠ none ∧
        (synthesize (registryOf service "")
          (synthesize (registryOf service "") e.2).result).fault = none := by
  have h : ∃ service, Descriptor.build (.list [rawFind false]) = .ok service ∧
      ∃ e ∈ (describe service "").1.models,
        (synthesize (registryOf service "") e.2).fault ≠ none ∧
        (synthesize (registryOf service "")
          (synthesize (registryOf service "") e.2).result).fault = none := by
    decide +kernel
  obtain ⟨service, hs, e, he, h⟩ := h
  exact ⟨service, hs, e, he, (fresh_describe e he).unflagged, h⟩

end RemoteBindings.ObjC
