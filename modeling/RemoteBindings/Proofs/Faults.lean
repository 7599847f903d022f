import RemoteBindings.Proofs.Bindings
import RemoteBindings.Proofs.Resynthesis

/-!
# The fault of a generation

A generation stops at the first fault that one of its models has (`fault_bindService_eq`), and a
model at the first of its base, its properties and its methods (`fault_synthesize_first`). The fault
of a method is that of the pass over its required arguments, or of the one over all of them
(`methodFault`).
-/

namespace RemoteBindings

namespace ObjC

variable {r : Registry} {model model' : Model} {m : Method} {pass : Pass}

/-- The fault of a pass over a method. -/
def passFault (r : Registry) (model : Model) (m : Method) (pass : Pass) : Option Fault :=
  match attempt r model m pass with
  | .error e => some e
  | .ok _ => none

/-- The fault of a method for which nothing has been synthesized. -/
def methodFault (r : Registry) (model : Model) (m : Method) : Option Fault :=
  (passFault r model m .requiredOnly).or
    (if hasOptional m then passFault r model m .all else none)

theorem methodFault_congr (hn : model.name = model'.name)
    (hc : model.className = model'.className) : methodFault r model m = methodFault r model' m := by
  simp only [methodFault, passFault, attempt_congr hn hc]

theorem fault_work_eq (w : Worked) :
    (work r model pass w).fault = passFault r model w.method pass := by
  unfold work passFault
  cases attempt r model w.method pass with
  | error e => rfl
  | ok a => cases a <;> rfl

/-- A pass changes no more of a method than its flag, so the next pass sees the same. -/
theorem passFault_work (w : Worked) (pass' : Pass) :
    passFault r model (work r model pass w).result.method pass' =
      passFault r model w.method pass' := by
  have hg (b : Bool) : passFault r model { w.method with generated := b } pass' =
      passFault r model w.method pass' := by
    rw [passFault, attempt_generated]
    rfl
  unfold work
  cases attempt r model w.method pass with
  | error e => rfl
  | ok a =>
    cases a with
    | unbound => rfl
    | withheld name => rfl
    | selector s => exact hg true

theorem fault_workBoth_eq (hg : m.generated = false) :
    (workBoth r model m).fault = methodFault r model m := by
  simp only [workBoth, hg, Bool.false_eq_true, if_false, Run.fault_after, methodFault]
  cases hasOptional m with
  | false =>
    rw [if_neg Bool.false_ne_true, if_neg Bool.false_ne_true, fault_work_eq, Option.or_none]
  | true =>
    rw [if_pos rfl, if_pos rfl, Run.fault_bind_eq, fault_work_eq, fault_work_eq, passFault_work]

theorem fault_workAll_eq (hu : Unflagged model) :
    (workAll r model model.methods).fault = model.methods.findSome? (methodFault r model) := by
  rw [workAll, Run.fault_each_eq, List.findSome?_map]
  exact Run.findSome?_congr fun m hm => fault_workBoth_eq (hu m hm)

theorem fault_synthesize_first (hu : Unflagged model) :
    (synthesize r model).fault = (prepare r model).fault.or
      (model.methods.findSome? (methodFault r (named r model))) := by
  have hu : Unflagged (named r model) := hu
  have hw : (workAll r (named r model) model.methods).fault =
      model.methods.findSome? (methodFault r (named r model)) := fault_workAll_eq hu
  rw [fault_synthesize_eq, hw]

end ObjC

open ObjC

variable {service : Descriptor.Service} {classPrefix : String}

theorem fault_bindService_eq :
    (bindService service classPrefix).fault = (describeModels service).1.findSome? fun e =>
      (synthesize (registryOf service classPrefix)
        (groupScopes (registryOf service classPrefix) e.2).1).fault := by
  have hs : (bindService service classPrefix).fault =
      (synthesizeAll (registryOf service classPrefix)
        (describe service classPrefix).1.models).fault := by
    simp only [bindService, Run.fault_after, Run.fault_bind_eq, Option.or_none, describe_registry]
  rw [hs, synthesizeAll, Run.fault_each_eq, describe_models, List.findSome?_map]
  rfl

end RemoteBindings
