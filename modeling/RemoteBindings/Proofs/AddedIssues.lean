import Mathlib.Data.List.Forall2
import RemoteBindings.Descriptor.Schema

/-!
# Checks with further issues

`x.Gains new y` compares the outcomes of two checks: `y` has the issues of `x` in their order, with
the issues `new` among them, and without any new one it accepts what `x` accepts. That holds of
combined checks if it holds of each of them, with the new issues of all (`Checked.Gains.seq`,
`gains_checkItems`).
-/

namespace RemoteBindings.Descriptor

/-! ## Issues -/

/-- One problem in one place. The mappings that a field is missing from may be different ones. -/
structure SameIssue (i j : Issue) : Prop where
  path : j.path = i.path
  problem : j.problem = i.problem
  given : i.problem ≠ .missing → j.given = i.given

/-- The issues `js` are the issues `is` in their order, with `new` among them. -/
inductive Added : (new is js : List Issue) → Prop
  | nil : Added [] [] []
  | keep {new is js : List Issue} {i j : Issue} :
    SameIssue i j → Added new is js → Added new (i :: is) (j :: js)
  | more {new is js : List Issue} {n : Issue} : Added new is js → Added (n :: new) is (n :: js)

def Issue.beneath (step : Step) (i : Issue) : Issue := { i with path := step :: i.path }

variable {α β : Type} {new new' is is' js js' : List Issue} {i j : Issue} {step : Step}

theorem SameIssue.refl (i : Issue) : SameIssue i i := ⟨rfl, rfl, fun _ => rfl⟩

theorem SameIssue.beneath (h : SameIssue i j) : SameIssue (i.beneath step) (j.beneath step) :=
  ⟨congrArg (step :: ·) h.path, h.problem, h.given⟩

namespace Added

theorem refl (is : List Issue) : Added [] is is := by
  induction is with
  | nil => exact .nil
  | cons i is ih => exact .keep (.refl i) ih

theorem append (h : Added new is js) (h' : Added new' is' js') :
    Added (new ++ new') (is ++ is') (js ++ js') := by
  induction h with
  | nil => exact h'
  | keep hi _ ih => exact .keep hi ih
  | more _ ih => exact .more ih

theorem beneath (h : Added new is js) :
    Added (new.map (Issue.beneath step)) (is.map (Issue.beneath step))
      (js.map (Issue.beneath step)) := by
  induction h with
  | nil => exact .nil
  | keep hi _ ih => exact .keep hi.beneath ih
  | more _ ih => exact .more ih

theorem length (h : Added new is js) : js.length = is.length + new.length := by
  induction h with
  | nil => rfl
  | keep _ _ ih | more _ ih =>
    simp only [List.length_cons, ih]
    omega

theorem forall₂_iff : List.Forall₂ SameIssue is js ↔ Added [] is js := by
  constructor
  · intro h
    induction h with
    | nil => exact .nil
    | cons hi _ ih => exact .keep hi ih
  · intro h
    generalize hnew : ([] : List Issue) = new at h
    induction h with
    | nil => exact .nil
    | keep hi _ ih => exact .cons hi (ih hnew)
    | more => cases hnew

end Added

/-! ## Outcomes -/

namespace Checked

variable {f g : Checked (α → β)} {x y : Checked α}

/-- The part that has been accepted. -/
def part? : Checked α → Option α
  | accepted a => some a
  | rejected _ => none

/-- The outcome `y` has the issues of `x` and new ones. -/
structure Gains (new : List Issue) (x y : Checked α) : Prop where
  issues : Added new x.issues y.issues
  part : y.part? = if new.isEmpty then x.part? else none

theorem issues_seq : (f <*> x).issues = f.issues ++ x.issues := by
  change (app f x).issues = _
  cases f <;> cases x <;> simp [app, Checked.issues]

theorem part?_seq : (f <*> x).part? = f.part?.bind fun h => x.part?.map h := by
  change (app f x).part? = _
  cases f <;> cases x <;> rfl

theorem issues_under : (x.under step).issues = x.issues.map (Issue.beneath step) := by
  cases x <;> rfl

theorem part?_under : (x.under step).part? = x.part? := by
  cases x <;> rfl

namespace Gains

theorem refl (x : Checked α) : Gains [] x x := ⟨.refl _, rfl⟩

theorem of_eq (h : y = x) : Gains [] x y := h ▸ refl x

theorem map (h : α → β) (hx : Gains new x y) : Gains new (h <$> x) (h <$> y) := by
  obtain ⟨hi, hp⟩ := hx
  change Gains new (x.map h) (y.map h)
  constructor
  · cases x <;> cases y <;> exact hi
  · cases x <;> cases y <;> cases new <;> simp_all [Checked.map, part?]

theorem seq (hf : Gains new f g) (hx : Gains new' x y) :
    Gains (new ++ new') (f <*> x) (g <*> y) := by
  constructor
  · rw [issues_seq, issues_seq]
    exact hf.issues.append hx.issues
  · rw [part?_seq, part?_seq, hf.part, hx.part]
    cases new <;> cases new' <;> simp

theorem seq_nil (hf : Gains [] f g) (hx : Gains [] x y) : Gains [] (f <*> x) (g <*> y) :=
  hf.seq hx

theorem under (hx : Gains new x y) (step : Step) :
    Gains (new.map (Issue.beneath step)) (x.under step) (y.under step) := by
  constructor
  · rw [issues_under, issues_under]
    exact hx.issues.beneath
  · rw [part?_under, part?_under, hx.part, List.isEmpty_map]

end Gains

end Checked

/-- Items besides a changed one have the issues that they had. -/
theorem gains_checkItems {check : Check α} {v w : Value} (h : (check v).Gains new (check w))
    (pre post : List Value) (k : Nat) :
    (checkItems check k (pre ++ v :: post)).Gains
      (new.map (Issue.beneath (.index (k + pre.length))))
      (checkItems check k (pre ++ w :: post)) := by
  induction pre generalizing k with
  | nil =>
    have hitem := (h.under (.index k)).map List.cons
    simpa [checkItems] using hitem.seq (.refl (checkItems check (k + 1) post))
  | cons u pre ih =>
    have hfirst := Checked.Gains.refl (List.cons <$> (check u).under (.index k))
    have hrest := hfirst.seq (ih (k + 1))
    rw [List.nil_append] at hrest
    have hindex : ((k + 1 : Nat) : Int) + pre.length = k + (u :: pre).length := by
      rw [List.length_cons]
      omega
    rw [← hindex]
    exact hrest

theorem gains_checkList {check : Check α} {u u' v w : Value} {pre post : List Value}
    (h : (check v).Gains new (check w)) (hu : itemsOf? u = some (pre ++ v :: post))
    (hu' : itemsOf? u' = some (pre ++ w :: post)) :
    (checkList check u).Gains (new.map (Issue.beneath (.index pre.length)))
      (checkList check u') := by
  rw [checkList, checkList, hu, hu']
  simpa using gains_checkItems h pre post 0

end RemoteBindings.Descriptor
