import RemoteBindings.Proofs.Described
import RemoteBindings.Proofs.Faults

/-!
# Arguments that the server computes

A caller does not pass the arguments that the server computes, so they stand in no selector: what a
pass makes of a method, and the fault that it has, are those of the method without them
(`attempt_withoutServerParams`). Taken away from all methods and constructors of a service they
leave the same models behind but for the lists of accepted arguments, which no file shows
(`writtenFiles_rendered`). So the files and the fault of a generation do not depend on them
(`generate_congr_serverParams`).
-/

namespace RemoteBindings

/-! ## Descriptions without the arguments -/

namespace Descriptor

/-- Whether the server computes the argument: by a function, or from a part of the request that no
caller states. -/
def Param.isServerComputed (p : Param) : Bool :=
  match p.http with
  | .function _ => true
  | .map entries =>
    match Value.field? "source" entries with
    | some (.text source) => ["req", "res", "context"].contains source
    | _ => false
  | _ => false

def withoutServerComputed (ps : List Param) : List Param := ps.filter fun p => !p.isServerComputed

def Method.withoutServerParams (m : Method) : Method :=
  { m with accepts := withoutServerComputed m.accepts }

def Ctor.withoutServerParams (ctor : Ctor) : Ctor :=
  { ctor with accepts := withoutServerComputed ctor.accepts }

def ModelClass.withoutServerParams (c : ModelClass) : ModelClass :=
  { c with
    ctor := c.ctor.map Ctor.withoutServerParams
    methods := c.methods.map Method.withoutServerParams }

/-- The service without the arguments that the server computes. -/
def Service.withoutServerParams (service : Service) : Service :=
  { service with models := service.models.map ModelClass.withoutServerParams }

end Descriptor

def Method.withoutServerParams (m : Method) : Method :=
  { m with accepts := m.accepts.filter fun p => !p.isServerComputed }

def Model.withoutServerParams (model : Model) : Model :=
  { model with methods := model.methods.map Method.withoutServerParams }

/-- What the files of a model show. -/
def Model.rendered (model : Model) : Model := { model with methods := [], scopes := [] }

open Descriptor (ModelClass Service)
open ObjC

variable {r : Registry} {model : Model} {service service' : Service} {classPrefix : String}

theorem isServerComputed_ofDescriptor (p : Descriptor.Param) :
    (Param.ofDescriptor p).isServerComputed = p.isServerComputed := by
  unfold Param.ofDescriptor Param.isServerComputed Descriptor.Param.isServerComputed
    Descriptor.Param.httpSource Descriptor.Param.isComputed
  cases p.http with
  | map entries =>
    simp only [Bool.false_or]
    cases Value.field? "source" entries with
    | none => rfl
    | some v => cases v <;> rfl
  | _ => rfl

theorem map_withoutServerComputed (ps : List Descriptor.Param) :
    (Descriptor.withoutServerComputed ps).map Param.ofDescriptor =
      (ps.map Param.ofDescriptor).filter fun p => !p.isServerComputed := by
  rw [List.filter_map]
  refine congrArg _ (List.filter_congr fun p _ => ?_)
  rw [Function.comp_apply, isServerComputed_ofDescriptor]

theorem ofDescriptor_withoutServerParams (ctor : Descriptor.Ctor) (m : Descriptor.Method) :
    Method.ofDescriptor ctor.withoutServerParams m.withoutServerParams =
      (Method.ofDescriptor ctor m).withoutServerParams := by
  have ha : (Method.ofDescriptor ctor.withoutServerParams m.withoutServerParams).accepts =
      (Method.ofDescriptor ctor m).accepts.filter fun p => !p.isServerComputed := by
    simp only [Method.ofDescriptor, Descriptor.Method.withoutServerParams,
      Descriptor.Ctor.withoutServerParams, map_withoutServerComputed]
    cases m.isStatic
    · simp only [Bool.false_eq_true, if_false, List.filter_append]
    · rfl
  exact congrArg (fun accepts => { Method.ofDescriptor ctor m with accepts }) ha

theorem changesModels_withoutServerParams :
    ChangesModels ModelClass.withoutServerParams Model.withoutServerParams where
  name _ := rfl
  isUser _ := rfl
  base _ := rfl
  model c := by
    rw [ModelClass.withoutServerParams, Option.map_map, Option.map_map]
    refine Option.map_congr fun ctor _ => ?_
    have hm : (c.methods.map Descriptor.Method.withoutServerParams).map
        (Method.ofDescriptor ctor.withoutServerParams) =
          (c.methods.map (Method.ofDescriptor ctor)).map Method.withoutServerParams := by
      rw [List.map_map, List.map_map]
      exact List.map_congr_left fun m _ => ofDescriptor_withoutServerParams ctor m
    simp only [Function.comp_apply, Model.ofDescriptor, Model.withoutServerParams, hm]
    rfl

theorem describeModels_withoutServerParams (service : Service) :
    (describeModels service.withoutServerParams).1 =
      (describeModels service).1.mapValues Model.withoutServerParams :=
  changesModels_withoutServerParams.describeModels_map service

theorem registryOf_withoutServerParams (service : Service) (classPrefix : String) :
    registryOf service.withoutServerParams classPrefix = registryOf service classPrefix :=
  changesModels_withoutServerParams.registryOf_map service classPrefix

/-! ## Selectors without the arguments -/

namespace ObjC

theorem considered_withoutServerParams (pass : Pass) (m : Method) :
    considered pass m.withoutServerParams = considered pass m := by
  rw [considered, considered, Method.withoutServerParams, List.filter_filter]
  refine List.filter_congr fun p _ => ?_
  cases p.isServerComputed <;> simp

theorem hasOptional_withoutServerParams (m : Method) :
    hasOptional m.withoutServerParams = hasOptional m := by
  rw [hasOptional, hasOptional, Method.withoutServerParams, List.any_filter]
  refine congrArg (List.any m.accepts) (funext fun p => ?_)
  cases p.isServerComputed <;> rfl

theorem attempt_withoutServerParams (r : Registry) (model : Model) (m : Method) (pass : Pass) :
    attempt r model m.withoutServerParams pass = attempt r model m pass := by
  have ha : argumentsOf r model m.withoutServerParams false (considered pass m) =
      argumentsOf r model m false (considered pass m) :=
    argumentsOf_congr (m := m.withoutServerParams) (n := m) rfl rfl rfl _ _
  simp only [attempt, considered_withoutServerParams, ha]
  rfl

theorem overloads_withoutServerParams (r : Registry) (model : Model) (m : Method) :
    overloads r model m.withoutServerParams = overloads r model m := by
  simp only [overloads, passSelectors, attempt_withoutServerParams, hasOptional_withoutServerParams]

theorem methodFault_withoutServerParams (r : Registry) (model : Model) (m : Method) :
    methodFault r model m.withoutServerParams = methodFault r model m := by
  simp only [methodFault, passFault, attempt_withoutServerParams, hasOptional_withoutServerParams]

end ObjC

/-- An accessor is listed under the same name with the arguments and without. -/
theorem listed_withoutServerParams (m : Method) :
    m.withoutServerParams.listed = m.listed.withoutServerParams := by
  have hn : m.withoutServerParams.name = m.name := rfl
  rw [Method.listed, Method.listed, hn]
  cases AccessorName.parse? m.name <;> rfl

/-! ## Services without the arguments -/

theorem methods_withoutServerParams (r : Registry) (model : Model) :
    (groupScopes r model.withoutServerParams).1.methods =
      (groupScopes r model).1.methods.map Method.withoutServerParams := by
  rw [groupScopes_methods, groupScopes_methods, Model.withoutServerParams, List.map_map,
    List.map_map]
  exact List.map_congr_left fun m _ => listed_withoutServerParams m

theorem Fresh.withoutServerParams {name : String} (h : Fresh name model) :
    Fresh name model.withoutServerParams :=
  ⟨h.name, List.forall_mem_map.mpr fun m hm => h.unflagged m hm, h.selectors⟩

theorem fault_synthesize_withoutServerParams {name : String} (h : Fresh name model) :
    (synthesize r (groupScopes r model.withoutServerParams).1).fault =
      (synthesize r (groupScopes r model).1).fault := by
  have hp : (prepare r (groupScopes r model.withoutServerParams).1).fault =
      (prepare r (groupScopes r model).1).fault := fault_prepare_congr rfl rfl rfl
  have hm (m : Method) : methodFault r (named r (groupScopes r model.withoutServerParams).1) m =
      methodFault r (named r (groupScopes r model).1) m := methodFault_congr rfl rfl
  rw [fault_synthesize_first (h.withoutServerParams.groupScopes r).unflagged,
    fault_synthesize_first (h.groupScopes r).unflagged, hp, methods_withoutServerParams,
    List.findSome?_map]
  refine congrArg _ (Run.findSome?_congr fun m _ => ?_)
  rw [Function.comp_apply, methodFault_withoutServerParams, hm]

theorem fault_bindService_withoutServerParams (service : Service) (classPrefix : String) :
    (bindService service.withoutServerParams classPrefix).fault =
      (bindService service classPrefix).fault := by
  rw [fault_bindService_eq, fault_bindService_eq, registryOf_withoutServerParams,
    describeModels_withoutServerParams, Entries.mapValues, List.findSome?_map]
  exact Run.findSome?_congr fun e he =>
    fault_synthesize_withoutServerParams ((describeModels_fresh service).2 e he)

/-- Files show no more of a model than what is rendered of it. -/
theorem writtenFiles_rendered (models : List Model) :
    writtenFiles (models.map Model.rendered) = writtenFiles models := by
  have hc : (models.map Model.rendered).map Model.className = models.map Model.className := by
    rw [List.map_map]
    rfl
  rw [writtenFiles, writtenFiles, hc, List.flatMap_map, aggregateHeader, aggregateHeader,
    List.flatMap_map]
  rfl

theorem rendered_finished_withoutServerParams (r : Registry) (models : Models)
    (e : String × Model) :
    (finished r (models.mapValues Model.withoutServerParams)
        (e.1, e.2.withoutServerParams)).rendered = (finished r models e).rendered := by
  have hi := includeMap_mapValues r models (f := Model.withoutServerParams) fun _ => rfl
  have hs : (finished r (models.mapValues Model.withoutServerParams)
      (e.1, e.2.withoutServerParams)).selectors = (finished r models e).selectors := by
    rw [selectors_finished, selectors_finished, Model.withoutServerParams, List.flatMap_map]
    refine congrArg _ (List.flatMap_congr fun m _ => ?_)
    rw [listed_withoutServerParams, overloads_withoutServerParams]
    exact overloads_congr rfl rfl
  simp only [finished] at hs ⊢
  simp only [Model.rendered, hs, hi]
  rfl

/-- A generation ends as it does without the arguments that the server computes. -/
theorem toExcept_generate_withoutServerParams (service : Service) (classPrefix : String) :
    (generate service.withoutServerParams classPrefix).toExcept =
      (generate service classPrefix).toExcept := by
  have hfault : (generate service.withoutServerParams classPrefix).fault =
      (generate service classPrefix).fault := by
    rw [generate, generate, Run.fault_bind_eq, Run.fault_bind_eq,
      fault_bindService_withoutServerParams]
  cases h : (generate service classPrefix).fault with
  | some e => rw [Run.toExcept, Run.toExcept, hfault, h]
  | none =>
    have h' := hfault.trans h
    have hb := ((Run.fault_bind _ _ _).mp h).1
    have hb' := ((Run.fault_bind _ _ _).mp h').1
    -- the models keep their lists of accepted arguments, so only what is rendered is the same
    have hvalues : (bindService service.withoutServerParams classPrefix).result.models.values.map
        Model.rendered = (bindService service classPrefix).result.models.values.map
          Model.rendered := by
      rw [values_bindService hb, values_bindService hb', registryOf_withoutServerParams,
        describeModels_withoutServerParams, List.map_map, List.map_map]
      refine List.map_map.trans (List.map_congr_left fun e _ => ?_)
      exact rendered_finished_withoutServerParams _ _ e
    rw [Run.toExcept, Run.toExcept, h, h', result_generate h, result_generate h',
      ← writtenFiles_rendered, hvalues, writtenFiles_rendered]

/-- Services that are the same but for arguments that the server computes have the same files, or
the same fault. -/
theorem generate_congr_serverParams
    (h : service.withoutServerParams = service'.withoutServerParams) (classPrefix : String) :
    (generate service classPrefix).toExcept = (generate service' classPrefix).toExcept := by
  rw [← toExcept_generate_withoutServerParams service, h, toExcept_generate_withoutServerParams]

/-- A service with one class, whose method `find` takes some arguments. -/
def findService (accepts : List Descriptor.Param) : Service where
  models := [plainClass "Note" [{
    name := "find"
    accepts
    returns := []
    isStatic := true
    http := none
    deprecated := false
    isInternal := false
    description := .null
    extra := [] }]]
  extra := []

/-- An argument that comes with the request in the way that `http` says. -/
def findParam (arg type : String) (http : Value) : Descriptor.Param :=
  ⟨arg, .text type, true, http, none, .null, []⟩

/-- The request itself and a time that the server takes stand before and behind an argument; their
types have no counterpart. -/
theorem generate_congr_serverParams_find :
    let filter := findParam "filter" "object" .null
    let request := findParam "req" "Request" (.map [(.text "source", .text "req")])
    let time := findParam "at" "Moment" (.function "now")
    (findService [request, filter, time]).withoutServerParams =
        (findService [filter]).withoutServerParams ∧
      (∃ files, (generate (findService [filter]) "").toExcept = .ok files ∧ files.length = 5) ∧
      (generate (findService [request, filter, time]) "").toExcept =
        (generate (findService [filter]) "").toExcept := by
  intro filter request time
  have hr : request.isServerComputed = true := by decide +kernel
  have ht : time.isServerComputed = true := by decide +kernel
  have h : (findService [request, filter, time]).withoutServerParams =
      (findService [filter]).withoutServerParams := by
    have ha : Descriptor.withoutServerComputed [request, filter, time] =
        Descriptor.withoutServerComputed [filter] := by
      simp [Descriptor.withoutServerComputed, List.filter_cons, hr, ht]
    simp only [findService, Service.withoutServerParams, ModelClass.withoutServerParams, plainClass,
      Descriptor.Method.withoutServerParams, List.map_cons, List.map_nil, ha]
  exact ⟨h, by decide +kernel, generate_congr_serverParams h ""⟩

end RemoteBindings
