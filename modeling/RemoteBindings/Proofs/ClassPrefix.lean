import RemoteBindings.Proofs.Agreement
import RemoteBindings.Proofs.Faults
import RemoteBindings.Proofs.Keywords

/-!
# The prefix of the classes

Two registries of the same names with different prefixes give other names to the classes, and
nothing else depends on these: not whether a type has a counterpart, and not what a call of a
selector states (`Selector.call`). So a pass over a method has the same fault under both, or
selectors that are called alike (`sameEnd_attempt`), and bindings with one prefix are those with the
other up to the names of classes (`bindService_classPrefix`).
-/

namespace RemoteBindings

open ObjC
open Run (SameEnd)

/-- What a selector sends and under which names, without the types. -/
structure Call where
  rawName : String
  name : String
  returnArg : Option String
  elementType : String
  httpVerb : String
  httpPath : String
  /-- The arguments: sent as, named, and whether it is the body. -/
  arguments : List (String × String × Bool)
deriving Repr, DecidableEq

/-- An argument without its type. -/
def Argument.slot (a : Argument) : String × String × Bool := (a.arg, a.name, a.isBody)

def Selector.call (s : Selector) : Call :=
  { rawName := s.rawName
    name := s.name
    returnArg := s.returnArg
    elementType := s.elementType
    httpVerb := s.httpVerb
    httpPath := s.httpPath
    arguments := s.arguments.map Argument.slot }

/-- Models that differ in the names of classes only, which have different prefixes. -/
structure RenamedOnly (p q : String) (model model' : Model) : Prop where
  scopes : model.scopes = model'.scopes
  properties : model.declaredProperties = model'.declaredProperties
  base : model.baseClass = model'.baseClass
  classes : ∃ name, model.className = p ++ name ∧ model'.className = q ++ name
  calls : model.selectors.map Selector.call = model'.selectors.map Selector.call

variable {r r' : Registry} {model model' : Model} {m : Method}

namespace ObjC

/-! ## Attempts -/

def Attempt.calls (a : Attempt) : List Call := a.selectors.map Selector.call

theorem sameEnd_argumentOf (hn : model.name = model'.name) (p : Param) :
    SameEnd (fun a a' => a.slot = a'.slot) (argumentOf r model m p)
      (argumentOf r' model' m p) := by
  simp only [argumentOf, argumentType?, hn]
  cases argumentRow? p.type p.arg with
  | none => exact .error _
  | some row => exact .ok rfl

theorem sameEnd_argumentsOf (hn : model.name = model'.name) (hasBody : Bool) (ps : List Param) :
    SameEnd (fun as as' => as.map Argument.slot = as'.map Argument.slot)
      (argumentsOf r model m hasBody ps) (argumentsOf r' model' m hasBody ps) := by
  induction ps generalizing hasBody with
  | nil => exact .ok rfl
  | cons p ps ih =>
    rw [argumentsOf, argumentsOf]
    rcases (sameEnd_argumentOf hn p).cases with ⟨e, hp, hp'⟩ | ⟨a, a', hp, hp', ha⟩
    · rw [hp, hp']
      exact .error e
    have hb : a.isBody = a'.isBody := congrArg (fun slot => slot.2.2) ha
    simp only [hp, hp', hb, hn]
    split
    · exact .error _
    rcases (ih (hasBody || a'.isBody)).cases with ⟨e, hps, hps'⟩ | ⟨as, as', hps, hps', has⟩
    · rw [hps, hps']
      exact .error e
    · rw [hps, hps']
      exact .ok (by rw [List.map_cons, List.map_cons, ha, has])

/-- A result has a type under every prefix or under none. -/
theorem sameEnd_returnTypeOf (hr : r.names = r'.names) (hn : model.name = model'.name)
    (m : Method) :
    SameEnd (fun _ _ => True) (returnTypeOf r model m) (returnTypeOf r' model' m) := by
  have hv : r.resolveValue? m.result.type = r'.resolveValue? m.result.type := by
    simp only [Registry.resolveValue?, Registry.resolve?, hr]
  -- the types themselves differ where they are classes
  have hs : (returnType? r model.name model.className m.returnsArray m.result.type).isSome =
      (returnType? r' model'.name model'.className m.returnsArray m.result.type).isSome := by
    simp only [returnType?, Registry.classOfValue?, hv, hn]
    cases m.returnsArray
    · cases m.result.type.isText model'.name
      · cases r'.resolveValue? m.result.type <;> rfl
      · rfl
    · rfl
  unfold returnTypeOf
  cases h : returnType? r model.name model.className m.returnsArray m.result.type <;>
    cases h' : returnType? r' model'.name model'.className m.returnsArray m.result.type <;>
    rw [h, h'] at hs
  · rw [hn]
    exact .error _
  · cases hs
  · cases hs
  · exact .ok trivial

theorem fullName_congr {as as' : List Argument} (has : as.map Argument.slot = as'.map Argument.slot)
    (m : Method) : fullName m as = fullName m as' := by
  have hargs (as : List Argument) : as.map Argument.arg = (as.map Argument.slot).map Prod.fst := by
    rw [List.map_map]
    rfl
  rw [fullName_eq, fullName_eq, hargs, hargs, has]

theorem call_selectorOf {as as' : List Argument}
    (has : as.map Argument.slot = as'.map Argument.slot) (m : Method) (type type' : String) :
    (selectorOf model m as type).call = (selectorOf model' m as' type').call := by
  simp only [Selector.call, selectorOf, fullName_congr has m, has]

/-- A pass has the same fault under every prefix, or makes selectors that are called alike. -/
theorem sameEnd_attempt (hr : r.names = r'.names) (hn : model.name = model'.name) (pass : Pass) :
    SameEnd (fun a a' => a.calls = a'.calls) (attempt r model m pass)
      (attempt r' model' m pass) := by
  unfold attempt
  split
  · exact .ok rfl
  rcases (sameEnd_argumentsOf hn false (considered pass m)).cases with
    ⟨e, ha, ha'⟩ | ⟨as, as', ha, ha', has⟩
  · rw [ha, ha']
    exact .error e
  rcases (sameEnd_returnTypeOf hr hn m).cases with ⟨e, ht, ht'⟩ | ⟨type, type', ht, ht', -⟩
  · simp only [ha, ha', ht, ht']
    exact .error e
  simp only [ha, ha', ht, ht', fullName_congr has m]
  split
  · exact .ok rfl
  · exact .ok (congrArg (fun call => [call]) (call_selectorOf has m type type'))

theorem passFault_of_names_eq (hr : r.names = r'.names) (hn : model.name = model'.name) (m : Method)
    (pass : Pass) : passFault r model m pass = passFault r' model' m pass := by
  unfold passFault
  rcases (sameEnd_attempt hr hn (m := m) pass).cases with ⟨e, h, h'⟩ | ⟨a, a', h, h', -⟩ <;>
    rw [h, h']

theorem calls_passSelectors (hr : r.names = r'.names) (hn : model.name = model'.name) (m : Method)
    (pass : Pass) : (passSelectors r model m pass).map Selector.call =
      (passSelectors r' model' m pass).map Selector.call := by
  unfold passSelectors
  rcases (sameEnd_attempt hr hn (m := m) pass).cases with ⟨e, h, h'⟩ | ⟨a, a', h, h', ha⟩ <;>
    rw [h, h']
  exact ha

theorem calls_overloads (hr : r.names = r'.names) (hn : model.name = model'.name) (m : Method) :
    (overloads r model m).map Selector.call = (overloads r' model' m).map Selector.call := by
  simp only [overloads, List.map_append, apply_ite (List.map Selector.call),
    calls_passSelectors hr hn m]

/-- Synthesis has the same fault under every prefix. -/
theorem fault_synthesize_of_names_eq (hr : r.names = r'.names) (hu : Unflagged model) :
    (synthesize r model).fault = (synthesize r' model).fault := by
  have hp : (prepare r model).fault = (prepare r' model).fault := by
    rw [fault_prepare_eq, fault_prepare_eq]
  rw [fault_synthesize_first hu, fault_synthesize_first hu, hp]
  refine congrArg _ (Run.findSome?_congr fun m _ => ?_)
  have hpass (pass : Pass) :
      passFault r (named r model) m pass = passFault r' (named r' model) m pass :=
    passFault_of_names_eq hr (by rfl) m pass
  rw [methodFault, methodFault, hpass, hpass]

end ObjC

/-! ## Services -/

theorem agreeOn_classPrefix (service : Descriptor.Service) (p q : String) (names : List String) :
    (registryOf service p).AgreeOn (registryOf service q) names := fun _ _ => rfl

theorem groupScopes_classPrefix (service : Descriptor.Service) (p q : String) (model : Model) :
    groupScopes (registryOf service p) model = groupScopes (registryOf service q) model :=
  groupScopes_congr (agreeOn_classPrefix service p q _)

theorem fault_bindService_classPrefix (service : Descriptor.Service) (p q : String) :
    (bindService service p).fault = (bindService service q).fault := by
  rw [fault_bindService_eq, fault_bindService_eq]
  refine Run.findSome?_congr fun e he => ?_
  rw [groupScopes_classPrefix service p q]
  have hf : Fresh e.1 e.2 := (describeModels_fresh service).2 e he
  exact fault_synthesize_of_names_eq rfl (hf.groupScopes _).unflagged

theorem finished_classPrefix (service : Descriptor.Service) (p q : String) (models : Models)
    (e : String × Model) :
    RenamedOnly p q (finished (registryOf service p) models e)
      (finished (registryOf service q) models e) where
  scopes := congrArg (fun x => x.1.scopes) (groupScopes_classPrefix service p q e.2)
  properties := rfl
  base := rfl
  classes := ⟨Text.pascalCase e.2.name, rfl, rfl⟩
  calls := by
    rw [selectors_finished, selectors_finished, List.map_append, List.map_append, List.map_flatMap,
      List.map_flatMap]
    refine congrArg _ (List.flatMap_congr fun m _ => ?_)
    exact calls_overloads (by rfl) (by rfl) m.listed

/-- Under two prefixes a service has bindings that differ in the names of classes only, or it has
none, by the same fault. -/
theorem bindService_classPrefix (service : Descriptor.Service) (p q : String) :
    SameEnd (fun b b' => List.Forall₂ (fun e e' => e.1 = e'.1 ∧ RenamedOnly p q e.2 e'.2)
        b.models b'.models)
      (bindService service p).toExcept (bindService service q).toExcept := by
  refine Run.sameEnd_toExcept (fault_bindService_classPrefix service p q) fun h h' => ?_
  rw [models_bindService h, models_bindService h', List.forall₂_map_left_iff,
    List.forall₂_map_right_iff, List.forall₂_same]
  exact fun e _ => ⟨rfl, finished_classPrefix service p q _ e⟩

end RemoteBindings
