import RemoteBindings.Run

/-!
# Runs without a fault

A run has no fault when none of its parts has one (`fault_bind`, `fault_each`), and then its result
is made of theirs (`result_bind`, `result_each`). A run through a list that has a fault stops at an
item (`exists_of_fault_each`), and the items behind it stay as they are (`result_each_append_cons`).
Of two faults the first counts (`fault_bind_eq`, `fault_each_eq`). Two runs that have the same fault
or related results have the same end (`SameEnd`).
-/

namespace RemoteBindings.Run

open Journal (Record)

variable {α β : Type}

/-- Two ends: both are the same fault, or both are results, and these are related. -/
inductive SameEnd {ε : Type} (R : α → β → Prop) : Except ε α → Except ε β → Prop
  | error (e : ε) : SameEnd R (.error e) (.error e)
  | ok {a : α} {b : β} (h : R a b) : SameEnd R (.ok a) (.ok b)

@[simp] theorem fault_map (f : α → β) (x : Run α) : (x.map f).fault = x.fault := rfl
@[simp] theorem result_map (f : α → β) (x : Run α) : (x.map f).result = f x.result := rfl
@[simp] theorem fault_after (rs : List Record) (x : Run α) : (x.after rs).fault = x.fault := rfl
@[simp] theorem result_after (rs : List Record) (x : Run α) : (x.after rs).result = x.result := rfl

theorem bind_of_fault_eq_none {x : Run α} (h : x.fault = none) (g : α → β) (f : α → Run β) :
    x.bind g f = (f x.result).after x.records := by
  simp only [bind, h, after]

theorem bind_of_fault {x : Run α} {e : Fault} (h : x.fault = some e) (g : α → β)
    (f : α → Run β) : x.bind g f = ⟨g x.result, x.records, some e⟩ := by
  simp only [bind, h]

theorem fault_bind (x : Run α) (g : α → β) (f : α → Run β) :
    (x.bind g f).fault = none ↔ x.fault = none ∧ (f x.result).fault = none := by
  cases h : x.fault with
  | none => simp [bind_of_fault_eq_none h]
  | some e => simp [bind, h]

/-- Of two faults the first counts. -/
theorem fault_bind_eq (x : Run α) (g : α → β) (f : α → Run β) :
    (x.bind g f).fault = x.fault.or (f x.result).fault := by
  cases h : x.fault with
  | none => rw [bind_of_fault_eq_none h, fault_after, Option.none_or]
  | some e => rw [bind_of_fault h, Option.some_or]

theorem result_bind {x : Run α} {g : α → β} {f : α → Run β} (h : (x.bind g f).fault = none) :
    (x.bind g f).result = (f x.result).result := by
  rw [bind_of_fault_eq_none ((fault_bind x g f).mp h).1, result_after]

/-- What holds of the result of each way through is kept. -/
theorem bind_keeps {p : β → Prop} {x : Run α} {g : α → β} {f : α → Run β} (hg : p (g x.result))
    (hf : p (f x.result).result) : p (x.bind g f).result := by
  unfold bind
  split
  · exact hg
  · exact hf

theorem fault_each (f : α → Run α) (as : List α) :
    (each f as).fault = none ↔ ∀ a ∈ as, (f a).fault = none := by
  induction as with
  | nil => simp [each]
  | cons a as ih =>
    rw [each, fault_bind, fault_map, ih]
    simp

theorem findSome?_congr {f g : α → Option β} {as : List α} (h : ∀ a ∈ as, f a = g a) :
    as.findSome? f = as.findSome? g := by
  have hm (f : α → Option β) : as.findSome? f = (as.map f).findSome? id := by
    rw [List.findSome?_map, Function.id_comp]
  rw [hm, hm, List.map_congr_left h]

/-- The fault of a run through a list is the first one that an item has. -/
theorem fault_each_eq (f : α → Run α) (as : List α) :
    (each f as).fault = as.findSome? fun a => (f a).fault := by
  induction as with
  | nil => rfl
  | cons a as ih =>
    rw [each, fault_bind_eq, fault_map, ih, List.findSome?_cons]
    cases (f a).fault <;> rfl

theorem result_each {f : α → Run α} {as : List α} (h : ∀ a ∈ as, (f a).fault = none) :
    (each f as).result = as.map fun a => (f a).result := by
  induction as with
  | nil => rfl
  | cons a as ih =>
    rw [each, bind_of_fault_eq_none (h a List.mem_cons_self), result_after, result_map,
      ih fun b hb => h b (List.mem_cons_of_mem _ hb), List.map_cons]

theorem toExcept_eq_ok_iff {x : Run α} {a : α} :
    x.toExcept = .ok a ↔ x.fault = none ∧ x.result = a := by
  unfold toExcept
  cases x.fault <;> simp

theorem exists_toExcept_eq_ok_iff {x : Run α} : (∃ a, x.toExcept = .ok a) ↔ x.fault = none := by
  simp only [toExcept_eq_ok_iff, exists_and_left, exists_eq', and_true]

theorem SameEnd.cases {ε : Type} {R : α → β → Prop} {x : Except ε α} {y : Except ε β}
    (h : SameEnd R x y) :
    (∃ e, x = .error e ∧ y = .error e) ∨ ∃ a b, x = .ok a ∧ y = .ok b ∧ R a b := by
  cases h with
  | error e => exact .inl ⟨e, rfl, rfl⟩
  | ok h => exact .inr ⟨_, _, rfl, rfl, h⟩

/-- Runs with the same fault have the same end if their results are related. -/
theorem sameEnd_toExcept {R : α → β → Prop} {x : Run α} {y : Run β} (hf : x.fault = y.fault)
    (hr : x.fault = none → y.fault = none → R x.result y.result) :
    SameEnd R x.toExcept y.toExcept := by
  unfold toExcept
  cases hx : x.fault with
  | some e =>
    rw [← hf, hx]
    exact .error e
  | none =>
    rw [← hf, hx]
    exact .ok (hr hx (hf ▸ hx))

/-! ## Where a run through a list stops -/

/-- Items without a fault are passed. -/
theorem fault_each_append {f : α → Run α} {as : List α} (h : ∀ a ∈ as, (f a).fault = none)
    (bs : List α) : (each f (as ++ bs)).fault = (each f bs).fault := by
  induction as with
  | nil => rfl
  | cons a as ih =>
    rw [List.cons_append, each, bind_of_fault_eq_none (h a List.mem_cons_self), fault_after,
      fault_map, ih fun b hb => h b (List.mem_cons_of_mem _ hb)]

theorem fault_each_cons {f : α → Run α} {a : α} {e : Fault} (h : (f a).fault = some e)
    (as : List α) : (each f (a :: as)).fault = some e := by
  rw [each, bind_of_fault h]

/-- The items in front of the one that has the fault are worked on, those behind it are not. -/
theorem result_each_append_cons {f : α → Run α} {as : List α} (h : ∀ a ∈ as, (f a).fault = none)
    {b : α} {e : Fault} (hb : (f b).fault = some e) (bs : List α) :
    (each f (as ++ b :: bs)).result = (as.map fun a => (f a).result) ++ (f b).result :: bs := by
  induction as with
  | nil => rw [List.nil_append, each, bind_of_fault hb, List.map_nil, List.nil_append]
  | cons a as ih =>
    rw [List.cons_append, each, bind_of_fault_eq_none (h a List.mem_cons_self), result_after,
      result_map, ih fun b hb => h b (List.mem_cons_of_mem _ hb), List.map_cons, List.cons_append]

/-- A fault is that of the first item that has one. -/
theorem exists_of_fault_each {f : α → Run α} {as : List α} {e : Fault}
    (h : (each f as).fault = some e) :
    ∃ before a after, as = before ++ a :: after ∧ (∀ b ∈ before, (f b).fault = none) ∧
      (f a).fault = some e := by
  induction as with
  | nil => cases h
  | cons a as ih =>
    cases ha : (f a).fault with
    | some e' =>
      rw [fault_each_cons ha] at h
      cases h
      exact ⟨[], a, as, rfl, by simp, ha⟩
    | none =>
      have hall : ∀ b ∈ [a], (f b).fault = none := by simpa using ha
      rw [← List.singleton_append, fault_each_append hall] at h
      obtain ⟨before, b, after, rfl, hbefore, hb⟩ := ih h
      exact ⟨a :: before, b, after, rfl, by simpa using ⟨ha, hbefore⟩, hb⟩

end RemoteBindings.Run
