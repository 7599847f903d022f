import RemoteBindings.Proofs.Drafts
import RemoteBindings.Proofs.Keywords

/-!
# Fields of a selector

A selector is put together from the arguments of one pass over a method. `SelectorFor` says of each
field what it is for given parameters: there is an argument for each of them (`StandsFor`), the
declaration names the arguments in turn (`Selector.declaration`), and each of them is sent once, the
body by itself and all others as entries of a dictionary (`Selector.entries`). These fields leave
no choice, so `attempt_eq_selector_iff` says both what a pass makes and when it makes it, however
the pass goes about it.
-/

namespace RemoteBindings

/-- The declaration of a selector. Its name stands before the first argument and a label before each
later one; the blocks have lines of their own, but without arguments the name stands before the
block for success. -/
def Selector.declaration (s : Selector) : String :=
  let parameter (type name : String) := ":(" ++ type ++ ")" ++ name
  let success := parameter (ObjC.successBlock s.returnType) "success"
  let failure := "\n        failure" ++ parameter "SLFailureBlock" "failure"
  match s.arguments with
  | [] => "(void)" ++ s.name ++ success ++ failure
  | a :: as =>
    "(void)" ++ s.name ++ parameter a.type a.name ++
      String.join (as.map fun b => " " ++ b.arg ++ parameter b.type b.name) ++
      "\n        success" ++ success ++ failure

/-- The entries of the dictionary that is sent. -/
def Selector.entries (s : Selector) : List String :=
  (s.arguments.filter fun a => !a.isBody).map fun a => "@\"" ++ a.arg ++ "\": " ++ a.value

namespace ObjC

variable {r : Registry} {model : Model} {m : Method} {pass : Pass} {ps : List Param}
  {as : List Argument} {s : Selector}

/-- The argument of a selector for a parameter. -/
structure StandsFor (r : Registry) (model : Model) (p : Param) (a : Argument) : Prop where
  arg : a.arg = p.arg
  name : a.name = if p.arg = "id" then "id_" else p.arg
  type : parameterType? r model p = some a.type
  value : a.value = sentValue a.type (pointer (argumentClass r model.className p)) a.name
  isBody : a.isBody = p.isBody

/-- The selector of a method for some of its parameters. -/
structure SelectorFor (r : Registry) (model : Model) (m : Method) (ps : List Param)
    (s : Selector) : Prop where
  rawName : s.rawName = m.name
  arguments : List.Forall₂ (StandsFor r model) ps s.arguments
  name : s.name = betterName (callName m.name (ps.map Param.arg))
  prototype : s.prototype = s.declaration
  /-- The body is the value of the only argument that is one. -/
  body : s.bodyAssignment.toList = (s.arguments.filter Argument.isBody).map Argument.value
  params : s.paramAssignments =
    if s.entries = [] then none else some (String.intercalate ", " s.entries)
  returnArg : s.returnArg = m.result.arg
  returnType : returnType? r model.name model.className m.returnsArray m.result.type =
    some s.returnType
  elementType : s.elementType = elementTypeOf m
  returnKind : s.returnKind = returnKindOf s.returnType model.className
  httpVerb : s.httpVerb = Text.upper m.http.verb
  httpPath : s.httpPath = m.http.path

/-! ## Arguments -/

theorem argumentOf_eq_ok_iff_standsFor {p : Param} {a : Argument} :
    argumentOf r model m p = .ok a ↔ StandsFor r model p a := by
  rw [argumentOf_eq_ok_iff]
  constructor
  · rintro ⟨type, ht, rfl⟩
    exact ⟨rfl, rfl, ht, rfl, rfl⟩
  · intro h
    refine ⟨a.type, h.type, ?_⟩
    have hv := h.value
    rw [h.name] at hv
    cases a
    simp only [Argument.mk.injEq]
    exact ⟨h.arg, h.name, trivial, hv, h.isBody⟩

theorem standsFor_unique : Relator.RightUnique (StandsFor r model) := by
  intro p a b ha hb
  have hn : a.name = b.name := ha.name.trans hb.name.symm
  have ht : a.type = b.type := Option.some_inj.mp (ha.type.symm.trans hb.type)
  have hv : a.value = b.value := by rw [ha.value, hb.value, ht, hn]
  cases a
  cases b
  simp only [Argument.mk.injEq]
  exact ⟨ha.arg.trans hb.arg.symm, hn, ht, hv, ha.isBody.trans hb.isBody.symm⟩

theorem isSome_of_forall₂ (h : List.Forall₂ (StandsFor r model) ps as) :
    ∀ p ∈ ps, (parameterType? r model p).isSome := by
  induction h with
  | nil => exact List.forall_mem_nil _
  | cons h _ ih => exact List.forall_mem_cons.mpr ⟨by rw [h.type]; rfl, ih⟩

theorem countP_isBody_of_forall₂ (h : List.Forall₂ (StandsFor r model) ps as) :
    as.countP Argument.isBody = ps.countP Param.isBody := by
  induction h with
  | nil => rfl
  | cons h _ ih => rw [List.countP_cons, List.countP_cons, ih, h.isBody]

/-- The arguments of a pass are those that stand for its parameters, with one body at most. -/
theorem argumentsOf_eq_ok_iff :
    argumentsOf r model m false ps = .ok as ↔
      List.Forall₂ (StandsFor r model) ps as ∧ as.countP Argument.isBody ≤ 1 := by
  have hstands {as : List Argument} (h : argumentsOf r model m false ps = .ok as) :
      List.Forall₂ (StandsFor r model) ps as :=
    (argumentsOf_forall₂ h).imp fun _ _ => argumentOf_eq_ok_iff_standsFor.mp
  constructor
  · intro h
    refine ⟨hstands h, ?_⟩
    rw [countP_isBody_of_forall₂ (hstands h)]
    exact (argumentsOf_isOk_iff.mp ⟨as, h⟩).2
  · rintro ⟨hall, hbody⟩
    rw [countP_isBody_of_forall₂ hall] at hbody
    obtain ⟨as', h⟩ : ∃ as', argumentsOf r model m false ps = .ok as' :=
      argumentsOf_isOk_iff.mpr ⟨isSome_of_forall₂ hall, hbody⟩
    rw [h, standsFor_unique.forall₂ (hstands h) hall]

/-! ## Selectors -/

theorem prototypeOf_eq_declaration (s : Selector) :
    prototypeOf s.name s.returnType s.arguments = s.declaration := by
  rw [prototypeOf, Selector.declaration]
  cases s.arguments <;>
    simp [argumentSegments, typedName, segmentIndent, String.append_assoc]

theorem assignmentsOf_eq (s : Selector) :
    assignmentsOf s.arguments =
      if s.entries = [] then none else some (String.intercalate ", " s.entries) := by
  rw [assignmentsOf, Selector.entries]
  cases s.arguments.filter fun a => !a.isBody with
  | nil => rfl
  | cons a as =>
    rw [List.map_cons, if_neg (List.cons_ne_nil _ _)]
    rfl

/-- One body at most is the body that is sent. -/
theorem toList_bodyOf (h : as.countP Argument.isBody ≤ 1) :
    (bodyOf as).toList = (as.filter Argument.isBody).map Argument.value := by
  rw [bodyOf, ← List.head?_filter]
  rw [List.countP_eq_length_filter] at h
  cases hf : as.filter Argument.isBody with
  | nil => rfl
  | cons a bodies =>
    rw [hf, List.length_cons] at h
    rw [List.eq_nil_of_length_eq_zero (Nat.le_zero.mp (Nat.le_of_succ_le_succ h))]
    rfl

theorem selectorFor_of_argumentsOf {type : String}
    (h : argumentsOf r model m false ps = .ok as)
    (ht : returnType? r model.name model.className m.returnsArray m.result.type = some type) :
    SelectorFor r model m ps (selectorOf model m as type) := by
  obtain ⟨hall, hbody⟩ := argumentsOf_eq_ok_iff.mp h
  exact
    { rawName := rfl
      arguments := hall
      name := by rw [← map_arg_of_argumentsOf h, ← fullName_eq]; rfl
      prototype := prototypeOf_eq_declaration (selectorOf model m as type)
      body := toList_bodyOf hbody
      params := assignmentsOf_eq (selectorOf model m as type)
      returnArg := rfl
      returnType := ht
      elementType := rfl
      returnKind := rfl
      httpVerb := rfl
      httpPath := rfl }

/-- The fields of a selector leave no choice. -/
theorem SelectorFor.unique {t : Selector} (hs : SelectorFor r model m ps s)
    (ht : SelectorFor r model m ps t) : s = t := by
  -- The texts are made of the name, the arguments and the return type, so these come first.
  have hname : s.name = t.name := hs.name.trans ht.name.symm
  have hargs : s.arguments = t.arguments := standsFor_unique.forall₂ hs.arguments ht.arguments
  have htype : s.returnType = t.returnType :=
    Option.some_inj.mp (hs.returnType.symm.trans ht.returnType)
  have hbody : s.bodyAssignment = t.bodyAssignment := by
    rw [← Option.head?_toList (o := s.bodyAssignment), hs.body, hargs, ← ht.body,
      Option.head?_toList]
  have hentries : s.entries = t.entries := by rw [Selector.entries, Selector.entries, hargs]
  have hparams : s.paramAssignments = t.paramAssignments := by rw [hs.params, ht.params, hentries]
  have hproto : s.prototype = t.prototype := by
    rw [hs.prototype, ht.prototype, ← prototypeOf_eq_declaration, ← prototypeOf_eq_declaration,
      hname, htype, hargs]
  have hkind : s.returnKind = t.returnKind := by rw [hs.returnKind, ht.returnKind, htype]
  have hraw := hs.rawName.trans ht.rawName.symm
  have harg := hs.returnArg.trans ht.returnArg.symm
  have helement := hs.elementType.trans ht.elementType.symm
  have hverb := hs.httpVerb.trans ht.httpVerb.symm
  have hpath := hs.httpPath.trans ht.httpPath.symm
  cases s
  cases t
  simp only [Selector.mk.injEq]
  exact ⟨hraw, hname, hproto, harg, htype, helement, hkind, hparams, hbody, hargs, hverb, hpath⟩

theorem selectorFor_of_attempt (h : attempt r model m pass = .ok (.selector s)) :
    SelectorFor r model m (considered pass m) s := by
  obtain ⟨-, as, type, ha, ht, -, rfl⟩ := attempt_selector h
  exact selectorFor_of_argumentsOf ha ht

end ObjC

end RemoteBindings
