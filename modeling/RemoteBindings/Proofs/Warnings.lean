import RemoteBindings.Generation
import RemoteBindings.Proofs.AccessorNames
import RemoteBindings.Proofs.Grouping
import RemoteBindings.Proofs.Journal
import RemoteBindings.Proofs.Run
import RemoteBindings.Proofs.Service

/-!
# What a generation warns of

A generation that is asked to be quiet reports the rejected scopes of its models and nothing else
(`received_quiet`). The first accessor of a scope decides whether there is a warning, so each
rejected scope has one, in the order in which the scopes come up (`kept_groupMethods`), and its line
is `scopeLine`; every other part of a generation is `Calm`.
-/

namespace RemoteBindings

open Journal (Record Level kept)

variable {r : Registry} {model : Model} {m : Method} {a : AccessorName} {name : String}
  {filed : List Method}

/-! ## Runs without a warning -/

/-- A run that reports nothing but details and progress. -/
def Run.Calm {α : Type} (x : Run α) : Prop := ∀ r ∈ x.records, r.level < .warning

namespace Run

variable {α β : Type} {x : Run α}

theorem calm_of_result (a : α) (fault : Option Fault) : Calm ⟨a, [], fault⟩ := by
  intro r hr
  cases hr

theorem Calm.after {records : List Record} (hr : ∀ r ∈ records, r.level < .warning)
    (hx : x.Calm) : (x.after records).Calm := by
  intro r hmem
  rcases List.mem_append.mp hmem with hmem | hmem
  · exact hr r hmem
  · exact hx r hmem

theorem Calm.bind {g : α → β} {f : α → Run β} (hx : x.Calm) (hf : ∀ a, (f a).Calm) :
    (x.bind g f).Calm := by
  cases h : x.fault with
  | none =>
    rw [bind_of_fault_eq_none h]
    exact (hf _).after hx
  | some e =>
    rw [bind_of_fault h]
    exact hx

theorem Calm.map (hx : x.Calm) (f : α → β) : (x.map f).Calm := hx

theorem Calm.each {f : α → Run α} (hf : ∀ a, (f a).Calm) (as : List α) : (each f as).Calm := by
  induction as with
  | nil => exact calm_of_result _ _
  | cons a as ih => exact (hf a).bind fun b => ih.map _

theorem Calm.kept_eq_nil (hx : x.Calm) : kept .quiet x.records = [] := Journal.kept_eq_nil hx

end Run

namespace ObjC

open Run (calm_of_result)

theorem calm_of_ofModel (modelName tag message : String) :
    ∀ r ∈ [Record.ofModel modelName tag message], r.level < .warning := by
  intro r hr
  rw [List.mem_singleton.mp hr]
  exact Level.detail_lt_warning

theorem calm_declare (modelName : String) (ps : List (String × Property)) :
    (declare modelName ps).Calm := by
  induction ps with
  | nil => exact calm_of_result _ _
  | cons p ps ih =>
    obtain ⟨name, p⟩ := p
    unfold declare
    split
    · exact ih
    split
    · exact calm_of_result _ _
    simp only
    split
    · exact calm_of_ofModel _ _ _
    · exact (ih.map _).after (calm_of_ofModel _ _ _)

theorem calm_work (r : Registry) (model : Model) (pass : Pass) (w : Worked) :
    (work r model pass w).Calm := by
  unfold work
  split
  · exact calm_of_result _ _
  · exact calm_of_result _ _
  · exact calm_of_ofModel _ _ _
  · exact calm_of_result _ _

theorem calm_workBoth (r : Registry) (model : Model) (m : Method) :
    (workBoth r model m).Calm := by
  unfold workBoth
  split
  · exact calm_of_ofModel _ _ _
  · refine Run.Calm.after (calm_of_ofModel _ _ _) ?_
    split
    · exact (calm_work _ _ _ _).bind fun _ => calm_work _ _ _ _
    · exact calm_work _ _ _ _

theorem calm_synthesize (r : Registry) (model : Model) : (synthesize r model).Calm := by
  have hb (model : Model) : (withBase model).Calm := by
    unfold withBase
    split <;> exact calm_of_result _ _
  have hp (model : Model) : (withProperties model).Calm :=
    (calm_declare _ _).bind fun _ => calm_of_result _ _
  have hm (model : Model) : (bindMethods r model).Calm :=
    (Run.Calm.each (fun _ => calm_workBoth _ _ _) _).map _
  exact (((hb _).bind hp).bind hm).after (calm_of_ofModel _ _ _)

theorem calm_synthesizeAll (r : Registry) (models : Models) : (synthesizeAll r models).Calm :=
  Run.Calm.each (fun ⟨_, model⟩ => (calm_synthesize r model).map _) models

end ObjC

theorem level_describeInto (byName : Entries String Descriptor.ModelClass)
    (cs : List Descriptor.ModelClass) (models : Models) :
    ∀ r ∈ (describeInto byName cs models).2, r.level < .warning := by
  induction cs generalizing models with
  | nil => simp [describeInto]
  | cons c cs ih =>
    have hskip (reason : String) : (skipRecord c.name reason).level < .warning :=
      Level.progress_lt_warning
    unfold describeInto
    split
    · rename_i skipped hc
      refine List.forall_mem_cons.mpr ⟨?_, ih models⟩
      unfold describeClass at hc
      split at hc
      · cases hc
        exact hskip _
      · split at hc <;> cases hc
        exact hskip _
    · exact ih _

/-! ## Warnings of a model -/

/-- Why a scope that cannot be resolved gets no accessors. -/
def rejectionOf (targets : Entries String (Option String)) (name : String) : ScopeRejection :=
  match statedTarget? targets name with
  | none => .noTarget
  | some target => .hiddenTarget target

def scopeWarning (model : Model) (name : String) : Record :=
  ⟨.warning, none, some model.name, some name, (rejectionOf model.scopeTargets name).message⟩

/-- The line that warns of a rejected scope. -/
def scopeLine (model : Model) (name : String) : String :=
  "[WARN] " ++ (if model.name = "" then "" else model.name ++ "." ++ name ++ ": ") ++
    (match statedTarget? model.scopeTargets name with
      | none => "scope is missing its target class, its iOS code won't be generated"
      | some target => "scope targets class \"" ++ target ++
          "\", which is not exposed via remoting; its iOS code won't be generated") ++ "\n"

/-- The scopes without a value in the grouped model, in the order of their first accessors. -/
def rejectedScopes (r : Registry) (model : Model) : List String :=
  (accessorScopes model.methods).filter fun name =>
    (Entries.find? name (groupScopes r model).1.scopes).any Option.isNone

/-- The scopes of some accessors that cannot be resolved. -/
def unresolvedScopes (r : Registry) (targets : Entries String (Option String))
    (ms : List Method) : List String :=
  (accessorScopes ms).filter (isUnresolved r targets)

theorem openScope_records (r : Registry) (model : Model) (name : String) :
    (openScope r model name).2 =
      if isUnresolved r model.scopeTargets name then [scopeWarning model name] else [] := by
  rw [openScope, isUnresolved, scopeWarning, rejectionOf, targetOf_eq]
  cases statedTarget? model.scopeTargets name with
  | none => rfl
  | some target =>
    cases hr : r.resolve? target <;> simp [hr, Except.isOk, Except.toBool]

/-- An accessor reports the opening of its scope and then its entries. -/
theorem groupMethod_records_eq (ha : AccessorName.parse? m.name = some a) :
    (groupMethod r model m).records =
      (if (Entries.find? a.scope model.scopes).isSome then [] else (openScope r model a.scope).2) ++
        match scopeFor r model a.scope with
        | none => []
        | some scope => (fileAccessor model a m scope).2 := by
  simp only [groupMethod, ha, scopeFor]
  cases Entries.find? a.scope model.scopes with
  | none =>
    simp only
    cases (openScope r model a.scope).1 with
    | none => exact (List.append_nil _).symm
    | some scope => rfl
  | some known => cases known <;> rfl

/-- An accessor is reported in detail, behind the warning if its scope is opened and rejected. -/
theorem kept_groupMethod (h : Filed r model.scopeTargets filed model.scopes)
    (ha : AccessorName.parse? m.name = some a) :
    kept .quiet (groupMethod r model m).records =
      if (accessorScopes filed).contains a.scope then []
      else if isUnresolved r model.scopeTargets a.scope then [scopeWarning model a.scope]
      else [] := by
  have hdetail : kept .quiet (match scopeFor r model a.scope with
      | none => []
      | some scope => (fileAccessor model a m scope).2) = [] := by
    refine Journal.kept_eq_nil fun r hr => ?_
    split at hr
    · cases hr
    · obtain ⟨e, -, rfl⟩ := List.mem_map.mp hr
      exact Level.detail_lt_warning
  have hknown : (Entries.find? a.scope model.scopes).isSome =
      (accessorScopes filed).contains a.scope := by
    rw [Bool.eq_iff_iff, List.contains_iff_mem, ← h.keys, ← not_iff_not,
      ← Entries.find?_eq_none_iff, Option.not_isSome_iff_eq_none]
  rw [groupMethod_records_eq ha, Journal.kept_append, hdetail, List.append_nil, hknown,
    openScope_records]
  split
  · rfl
  · split <;> rfl

/-- The warnings so far and those of one more method. -/
theorem unresolvedScopes_concat (h : Filed r model.scopeTargets filed model.scopes) (m : Method) :
    (unresolvedScopes r model.scopeTargets (filed ++ [m])).map (scopeWarning model) =
      (unresolvedScopes r model.scopeTargets filed).map (scopeWarning model) ++
        kept .quiet (groupMethod r model m).records := by
  rw [unresolvedScopes, accessorScopes_concat]
  cases ha : AccessorName.parse? m.name with
  | none =>
    rw [groupMethod_of_parse?_eq_none ha]
    exact (List.append_nil _).symm
  | some a =>
    rw [kept_groupMethod h ha]
    simp only
    split
    · exact (List.append_nil _).symm
    · rw [List.filter_append, List.map_append, List.filter_singleton]
      cases isUnresolved r model.scopeTargets a.scope <;> rfl

theorem kept_groupMethods (h : Filed r model.scopeTargets filed model.scopes) (ms : List Method) :
    (unresolvedScopes r model.scopeTargets (filed ++ ms)).map (scopeWarning model) =
      (unresolvedScopes r model.scopeTargets filed).map (scopeWarning model) ++
        kept .quiet (groupMethods r model ms).2.2 := by
  induction ms generalizing model filed with
  | nil => simp [groupMethods, kept]
  | cons m ms ih =>
    have hms := @ih { model with scopes := (groupMethod r model m).scopes } _ (h.groupMethod m)
    have hm := unresolvedScopes_concat h m
    rw [List.append_assoc, List.singleton_append] at hms
    rw [groupMethods, Journal.kept_append, ← List.append_assoc, ← hm]
    exact hms

theorem rejectedScopes_eq (r : Registry) (model : Model) :
    rejectedScopes r model = unresolvedScopes r model.scopeTargets model.methods := by
  refine List.filter_congr fun name hn => ?_
  obtain ⟨m, hm, a, ha, rfl⟩ := mem_accessorScopes.mp hn
  obtain ⟨v, hf, hv⟩ := find?_groupScopes (r := r) hm ha
  rw [hf, Option.any_some, hv]

theorem kept_groupScopes (r : Registry) (model : Model) :
    kept .quiet (groupScopes r model).2 = (rejectedScopes r model).map (scopeWarning model) := by
  have h := @kept_groupMethods r { model with scopes := [] } [] ⟨rfl, fun _ _ h => by cases h⟩
    model.methods
  rw [rejectedScopes_eq]
  exact h.symm

theorem kept_groupAllScopes (r : Registry) (models : Models) :
    kept .quiet (groupAllScopes r models).2 =
      models.flatMap fun e => (rejectedScopes r e.2).map (scopeWarning e.2) := by
  induction models with
  | nil => rfl
  | cons e models ih =>
    rw [groupAllScopes, Journal.kept_append, ih, kept_groupScopes, List.flatMap_cons]

theorem line_scopeWarning (model : Model) (h : name ≠ "") :
    (scopeWarning model name).line = scopeLine model name := by
  have hmessage : (rejectionOf model.scopeTargets name).message =
      match statedTarget? model.scopeTargets name with
      | none => "scope is missing its target class, its iOS code won't be generated"
      | some target => "scope targets class \"" ++ target ++
          "\", which is not exposed via remoting; its iOS code won't be generated" := by
    rw [rejectionOf]
    cases statedTarget? model.scopeTargets name <;> rfl
  rw [Record.line_eq, scopeLine, ← hmessage]
  by_cases hm : model.name = "" <;>
    simp [scopeWarning, Level.warning, Option.filter, hm, h, String.append_assoc]

theorem ne_empty_of_mem_rejectedScopes (h : name ∈ rejectedScopes r model) : name ≠ "" := by
  obtain ⟨m, -, a, ha, rfl⟩ := mem_accessorScopes.mp (List.mem_of_mem_filter h)
  exact (AccessorName.parse?_eq_some_iff.mp ha).1.scope_ne_empty

/-! ## Warnings of a service -/

/-- The warnings of a service: one for each rejected scope of each model. -/
def serviceWarnings (service : Descriptor.Service) (classPrefix : String) : List Record :=
  (describeModels service).1.flatMap fun e =>
    (rejectedScopes (registryOf service classPrefix) e.2).map (scopeWarning e.2)

variable (service : Descriptor.Service) (classPrefix : String)

theorem kept_describe :
    kept .quiet (describe service classPrefix).2 = serviceWarnings service classPrefix := by
  have hskipped : kept .quiet (describeModels service).2 = [] :=
    Journal.kept_eq_nil (level_describeInto _ _ _)
  have hcons (r : Record) (rs : List Record) (hr : r.level = .progress) :
      kept .quiet (r :: rs) = kept .quiet rs :=
    List.filter_cons_of_neg (by rw [hr]; decide)
  rw [describe]
  simp only
  rw [List.cons_append, hcons _ _ rfl, Journal.kept_append, hskipped, List.nil_append,
    hcons _ _ rfl, hcons _ _ rfl, kept_groupAllScopes]
  rfl

theorem kept_bindService :
    kept .quiet (bindService service classPrefix).records = serviceWarnings service classPrefix := by
  have hcalm (described : Bindings) :
      ((ObjC.synthesizeAll described.registry described.models).bind
        (Bindings.mk · described.registry) fun models =>
          { result := ⟨withIncludes described.registry models, described.registry⟩ }).Calm :=
    (ObjC.calm_synthesizeAll _ _).bind fun _ => Run.calm_of_result _ _
  have hphase (message : String) : kept .quiet [phaseRecord 3 message] = [] :=
    Journal.kept_eq_nil (List.forall_mem_singleton.mpr Level.progress_lt_warning)
  simp only [bindService, Run.after, Journal.kept_append, hphase, kept_describe, List.append_nil]
  rw [(hcalm _).kept_eq_nil, List.append_nil]

theorem kept_generate :
    kept .quiet (generate service classPrefix).records = serviceWarnings service classPrefix := by
  have hrender (models : Models) : kept .quiet (phaseRecord 4 "Rendering Objective-C sources..." ::
      ObjC.renderRecords models) = [] := by
    refine Journal.kept_eq_nil (List.forall_mem_cons.mpr ⟨Level.progress_lt_warning, fun r hr => ?_⟩)
    obtain ⟨model, -, rfl⟩ := List.mem_map.mp hr
    exact Level.detail_lt_warning
  rw [generate, ← kept_bindService]
  cases hf : (bindService service classPrefix).fault with
  | some e => rw [Run.bind_of_fault hf]
  | none =>
    rw [Run.bind_of_fault_eq_none hf, Run.after, Journal.kept_append, hrender, List.append_nil]

theorem map_line_serviceWarnings :
    (serviceWarnings service classPrefix).map Record.line =
      (describeModels service).1.flatMap fun e =>
        (rejectedScopes (registryOf service classPrefix) e.2).map (scopeLine e.2) := by
  rw [serviceWarnings, List.map_flatMap]
  refine List.flatMap_congr fun e _ => ?_
  rw [List.map_map]
  exact List.map_congr_left fun name hn =>
    line_scopeWarning e.2 (ne_empty_of_mem_rejectedScopes hn)

/-- On a quiet channel the description of a service, its bindings and its files report the same:
one line for each rejected scope of each model, and nothing else. -/
theorem received_quiet (desk : Journal.Desk) (stream : String) :
    let lines := String.join ((serviceWarnings service classPrefix).map Record.line)
    let quiet := desk.configure .quiet stream
    (quiet.emitAll (describe service classPrefix).2).received stream =
        desk.received stream ++ lines ∧
      (quiet.emitAll (bindService service classPrefix).records).received stream =
        desk.received stream ++ lines ∧
      (quiet.emitAll (generate service classPrefix).records).received stream =
        desk.received stream ++ lines ∧
      (serviceWarnings service classPrefix).map Record.line =
        (describeModels service).1.flatMap fun e =>
          (rejectedScopes (registryOf service classPrefix) e.2).map (scopeLine e.2) := by
  simp only [Journal.received_configure, Journal.shown_eq, kept_describe, kept_bindService,
    kept_generate, map_line_serviceWarnings, and_self]

end RemoteBindings
