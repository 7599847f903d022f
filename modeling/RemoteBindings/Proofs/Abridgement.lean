import RemoteBindings.Proofs.SelectorFields

/-!
# The two selectors of a method

A method has a selector for its required arguments and, if some arguments are optional, another one
for all of them. The two come of separate passes, but the first one `Abridges` the second: it leaves
out the optional arguments and is the same in all that a request is made of. `Contribution` says
which of the two a method has, and `selectors_synthesize` that the selectors of a model are the
contributions of its methods in turn.
-/

namespace RemoteBindings.ObjC

variable {r : Registry} {model : Model} {m : Method} {pass : Pass} {ps : List Param}
  {as : List Argument} {s t : Selector}

/-- The arguments at the places of required parameters. -/
def requiredArguments (ps : List Param) (as : List Argument) : List Argument :=
  ((ps.zip as).filter fun x => x.1.isRequired).map Prod.snd

/-- The selector `s` leaves out the arguments of `t` that stand for optional parameters. -/
structure Abridges (ps : List Param) (s t : Selector) : Prop where
  arguments : s.arguments = requiredArguments ps t.arguments
  sublist : s.arguments.Sublist t.arguments
  shorter : s.arguments.length < t.arguments.length
  rawName : s.rawName = t.rawName
  bodyAssignment : s.bodyAssignment = t.bodyAssignment
  returnType : s.returnType = t.returnType
  returnKind : s.returnKind = t.returnKind
  elementType : s.elementType = t.elementType
  httpVerb : s.httpVerb = t.httpVerb
  httpPath : s.httpPath = t.httpPath

/-- What a method contributes to the selectors of a model: `short` for its required arguments and
`long` for all of them. -/
structure Contribution (r : Registry) (model : Model) (m : Method) (short long : Option Selector) :
    Prop where
  of_short : ∀ s ∈ short, attempt r model m .requiredOnly = .ok (.selector s)
  of_long : ∀ s ∈ long, attempt r model m .all = .ok (.selector s)
  unbound : m.name ∈ unboundMethods → short = none ∧ long = none
  all_required : (∀ p ∈ m.accepts, p.isServerComputed = false → p.isRequired = true) → long = none
  short_missing : m.name ∉ unboundMethods → short = none →
    callName m.name (labels .requiredOnly m) ∈ withheldNames
  long_missing : m.name ∉ unboundMethods →
    (∃ p ∈ m.accepts, p.isServerComputed = false ∧ p.isRequired = false) → long = none →
    callName m.name (labels .all m) ∈ withheldNames
  abridges : ∀ s ∈ short, ∀ t ∈ long, Abridges (considered .all m) s t

/-! ## Arguments of required parameters -/

theorem forall₂_requiredArguments (h : List.Forall₂ (StandsFor r model) ps as) :
    List.Forall₂ (StandsFor r model) (ps.filter Param.isRequired) (requiredArguments ps as) := by
  induction h with
  | nil => exact .nil
  | @cons p a ps as hp _ ih =>
    rw [requiredArguments, List.zip_cons_cons, List.filter_cons, List.filter_cons]
    cases p.isRequired with
    | true => exact .cons hp ih
    | false => exact ih

theorem requiredArguments_sublist (h : List.Forall₂ (StandsFor r model) ps as) :
    (requiredArguments ps as).Sublist as := by
  have hsnd : (ps.zip as).map Prod.snd = as := List.map_snd_zip h.length_eq.ge
  have hsub := (List.filter_sublist (p := fun x => x.1.isRequired) (l := ps.zip as)).map Prod.snd
  rwa [hsnd] at hsub

/-- A body is required, so it is among them. -/
theorem filter_isBody_requiredArguments (h : List.Forall₂ (StandsFor r model) ps as) :
    (requiredArguments ps as).filter Argument.isBody = as.filter Argument.isBody := by
  induction h with
  | nil => rfl
  | @cons p a ps as hp _ ih =>
    rw [requiredArguments] at ih ⊢
    rw [List.zip_cons_cons, List.filter_cons, List.filter_cons, ← ih]
    have hbody : a.isBody = true → p.isRequired = true := by
      rw [hp.isBody, Param.isRequired, Bool.or_eq_true]
      exact .inr
    cases hr : p.isRequired with
    | true => rw [if_pos rfl, List.map_cons, List.filter_cons]
    | false =>
      have hb : ¬ a.isBody = true := fun hb => Bool.false_ne_true (hr.symm.trans (hbody hb))
      rw [if_neg Bool.false_ne_true, if_neg hb]

/-! ## Selectors -/

theorem hasOptional_iff :
    hasOptional m = true ↔ ∃ p ∈ m.accepts, p.isServerComputed = false ∧ p.isRequired = false := by
  simp [hasOptional]

/-- The pass over the required arguments makes an abridged selector. -/
theorem abridges_of_attempt (ho : hasOptional m = true)
    (hs : attempt r model m .requiredOnly = .ok (.selector s))
    (ht : attempt r model m .all = .ok (.selector t)) : Abridges (considered .all m) s t := by
  have hshort := selectorFor_of_attempt hs
  have hlong := selectorFor_of_attempt ht
  have hall := forall₂_requiredArguments hlong.arguments
  rw [← considered_requiredOnly] at hall
  have hargs : s.arguments = requiredArguments (considered .all m) t.arguments :=
    standsFor_unique.forall₂ hshort.arguments hall
  have hlt := length_labels_lt ho
  rw [labels, labels, List.length_map, List.length_map, hshort.arguments.length_eq,
    hlong.arguments.length_eq] at hlt
  have htype : s.returnType = t.returnType :=
    Option.some_inj.mp (hshort.returnType.symm.trans hlong.returnType)
  have hbody : s.bodyAssignment.toList = t.bodyAssignment.toList := by
    rw [hshort.body, hlong.body, hargs, filter_isBody_requiredArguments hlong.arguments]
  exact
    { arguments := hargs
      sublist := hargs ▸ requiredArguments_sublist hlong.arguments
      shorter := hlt
      rawName := hshort.rawName.trans hlong.rawName.symm
      bodyAssignment := by
        rw [← Option.head?_toList (o := s.bodyAssignment), hbody, Option.head?_toList]
      returnType := htype
      returnKind := by rw [hshort.returnKind, hlong.returnKind, htype]
      elementType := hshort.elementType.trans hlong.elementType.symm
      httpVerb := hshort.httpVerb.trans hlong.httpVerb.symm
      httpPath := hshort.httpPath.trans hlong.httpPath.symm }

/-- The selector that a pass makes. -/
def passSelector? (r : Registry) (model : Model) (m : Method) (pass : Pass) : Option Selector :=
  (passSelectors r model m pass).head?

theorem toList_passSelector? :
    (passSelector? r model m pass).toList = passSelectors r model m pass := by
  unfold passSelector? passSelectors
  cases attempt r model m pass with
  | error e => rfl
  | ok a => cases a <;> rfl

theorem mem_passSelector? :
    s ∈ passSelector? r model m pass ↔ attempt r model m pass = .ok (.selector s) := by
  rw [← mem_passSelectors, ← toList_passSelector?, Option.mem_toList, Option.mem_def]

/-- A pass over a method that fits makes no selector only if its name is withheld. -/
theorem withheld_of_passSelector? (hf : m.name ∉ unboundMethods → Fits r model m)
    (hu : m.name ∉ unboundMethods) (h : passSelector? r model m pass = none) :
    callName m.name (labels pass m) ∈ withheldNames := by
  by_contra hw
  obtain ⟨s, hs⟩ := exists_selector (hf hu) hu hw
  have hmem := mem_passSelector?.mpr hs
  rw [h] at hmem
  cases hmem

theorem passSelector?_of_unbound (hu : m.name ∈ unboundMethods) :
    passSelector? r model m pass = none := by
  rw [passSelector?, passSelectors, attempt_of_unbound hu]
  rfl

/-- The selectors of a method that fits are its contribution. -/
theorem contribution_of_fits (hf : m.name ∉ unboundMethods → Fits r model m) :
    Contribution r model m (passSelector? r model m .requiredOnly)
      (if hasOptional m then passSelector? r model m .all else none) := by
  cases ho : hasOptional m with
  | true =>
    -- Both passes are made, and what is missing is missing for its name.
    rw [if_pos rfl]
    exact
      { of_short := fun _ => mem_passSelector?.mp
        of_long := fun _ => mem_passSelector?.mp
        unbound := fun hu => ⟨passSelector?_of_unbound hu, passSelector?_of_unbound hu⟩
        all_required := fun hall => by
          obtain ⟨p, hp, hc, hr⟩ := hasOptional_iff.mp ho
          exact absurd (hr.symm.trans (hall p hp hc)) Bool.false_ne_true
        short_missing := withheld_of_passSelector? hf
        long_missing := fun hu _ => withheld_of_passSelector? hf hu
        abridges := fun _ hs _ ht =>
          abridges_of_attempt ho (mem_passSelector?.mp hs) (mem_passSelector?.mp ht) }
  | false =>
    rw [if_neg Bool.false_ne_true]
    exact
      { of_short := fun _ => mem_passSelector?.mp
        of_long := fun _ hs => by cases hs
        unbound := fun hu => ⟨passSelector?_of_unbound hu, rfl⟩
        all_required := fun _ => rfl
        short_missing := withheld_of_passSelector? hf
        long_missing := fun _ hex =>
          absurd (ho.symm.trans (hasOptional_iff.mpr hex)) Bool.false_ne_true
        abridges := fun _ _ _ ht => by cases ht }

theorem overloads_eq :
    overloads r model m = (passSelector? r model m .requiredOnly).toList ++
      (if hasOptional m then passSelector? r model m .all else none).toList := by
  rw [overloads, toList_passSelector?]
  split
  · rw [toList_passSelector?]
  · rfl

/-- Synthesis without a fault adds the contributions of the methods in turn. -/
theorem selectors_synthesize (hu : Unflagged model) (h : (synthesize r model).fault = none) :
    ∃ made : List (Option Selector × Option Selector),
      List.Forall₂ (fun m x => Contribution r (named r model) m x.1 x.2) model.methods made ∧
        (synthesize r model).result.selectors =
          model.selectors ++ made.flatMap fun x => x.1.toList ++ x.2.toList := by
  have hmethods := ((fault_synthesize hu).mp h).1.methods
  refine ⟨model.methods.map fun m => (passSelector? r (named r model) m .requiredOnly,
    if hasOptional m then passSelector? r (named r model) m .all else none), ?_, ?_⟩
  · rw [List.forall₂_map_right_iff, List.forall₂_same]
    exact fun m hm => contribution_of_fits (hmethods m hm)
  · rw [result_synthesize hu h, List.flatMap_map]
    have hover : overloads r (named r model) = fun m =>
        (passSelector? r (named r model) m .requiredOnly).toList ++
          (if hasOptional m then passSelector? r (named r model) m .all else none).toList :=
      funext fun _ => overloads_eq
    simp only [bound, hover]

/-- A class with a method that needs no selector, one with both, and one of which the shorter is
withheld. -/
def rawOverloaded : Value :=
  rawClass "Note" [(.text "methods", .list
    [rawMethod "create" [],
      .map [(.text "name", .text "find"), (.text "accepts", .list
        [.map [(.text "arg", .text "filter"), (.text "type", .text "object")]])],
      .map [(.text "name", .text "updateAll"), (.text "accepts", .list
        [.map [(.text "arg", .text "where"), (.text "type", .text "object")],
          .map [(.text "arg", .text "data"), (.text "type", .text "object"),
            (.text "http", .map [(.text "source", .text "body")])]])]])]

theorem selectors_synthesize_note :
    ∃ service, Descriptor.build (.list [rawOverloaded]) = .ok service ∧
      ∃ e ∈ (describe service "").1.models, Unflagged e.2 ∧
        (synthesize (registryOf service "") e.2).fault = none ∧
        (synthesize (registryOf service "") e.2).result.selectors.map Selector.name =
          ["allWithSuccess", "findWithFilter", "updateAllWithWhereFilter"] ∧
        ∃ made : List (Option Selector × Option Selector),
          List.Forall₂ (fun m x => Contribution (registryOf service "")
            (named (registryOf service "") e.2) m x.1 x.2) e.2.methods made ∧
          (synthesize (registryOf service "") e.2).result.selectors =
            e.2.selectors ++ made.flatMap fun x => x.1.toList ++ x.2.toList := by
  have h : ∃ service, Descriptor.build (.list [rawOverloaded]) = .ok service ∧
      ∃ e ∈ (describe service "").1.models,
        (synthesize (registryOf service "") e.2).fault = none ∧
        (synthesize (registryOf service "") e.2).result.selectors.map Selector.name =
          ["allWithSuccess", "findWithFilter", "updateAllWithWhereFilter"] := by
    decide +kernel
  obtain ⟨service, hs, e, he, hf, hnames⟩ := h
  have hu := (fresh_describe e he).unflagged
  exact ⟨service, hs, e, he, hu, hf, hnames, selectors_synthesize hu hf⟩

end RemoteBindings.ObjC
