import RemoteBindings.Proofs.Checks
import RemoteBindings.Proofs.Described
import RemoteBindings.Proofs.Replacement

/-!
# Routes of instance methods

The path of an instance method goes on from the path of the shared constructor. Slashes are added
and dropped where the two meet, so paths are compared by their segments: those of a joined path are
the segments of both parts in turn (`segments_joinPaths`).

What a constructor states about its route may be left out at several places: `statedPath?` reads it
from the description as it is given, and `path_of_checkBinding` says that validation keeps it and
puts `/:id` where there is none. A method that states no path is called by its name, without the
first `prototype.` in it (`Unmarked`, `OwnPath`). `describedFrom_of_build` combines these for every
instance method of a described class.
-/

namespace RemoteBindings

/-! ## Segments -/

/-- The parts of a path between its slashes, without the empty ones. -/
def segmentsOf (path : List Char) : List (List Char) := (path.splitOn '/').filter (· ≠ [])

def segments (path : String) : List String := (segmentsOf path.toList).map String.ofList

theorem segmentsOf_append_slash (base path : List Char) :
    segmentsOf (base ++ '/' :: path) = segmentsOf base ++ segmentsOf path := by
  rw [segmentsOf, List.splitOn_append_cons_self, List.filter_append]
  rfl

theorem segmentsOf_slash_cons (path : List Char) : segmentsOf ('/' :: path) = segmentsOf path :=
  segmentsOf_append_slash [] path

theorem segmentsOf_dropWhile_slash (path : List Char) :
    segmentsOf (path.dropWhile (· == '/')) = segmentsOf path := by
  induction path with
  | nil => rfl
  | cons c path ih =>
    by_cases hc : c = '/'
    · subst hc
      rw [List.dropWhile_cons_of_pos (by decide), ih, segmentsOf_slash_cons]
    · rw [List.dropWhile_cons_of_neg (by simpa using hc)]

theorem segmentsOf_dropEndWhile_slash (path : List Char) :
    segmentsOf (Text.dropEndWhile (· == '/') path) = segmentsOf path := by
  -- the slashes go from the end, so the induction takes off the last character
  induction path using List.reverseRecOn with
  | nil => rfl
  | append_singleton path c ih =>
    rw [Text.dropEndWhile, List.reverse_concat]
    by_cases hc : c = '/'
    · subst hc
      have hlast : segmentsOf (path ++ ['/']) = segmentsOf path := by
        rw [segmentsOf_append_slash]
        exact List.append_nil _
      rw [List.dropWhile_cons_of_pos (by decide), hlast]
      exact ih
    · rw [List.dropWhile_cons_of_neg (by simpa using hc), List.reverse_cons, List.reverse_reverse]

theorem segmentsOf_joinPathChars (base path : List Char) :
    segmentsOf (joinPathChars base path) = segmentsOf base ++ segmentsOf path := by
  have hstem := segmentsOf_dropEndWhile_slash base
  unfold joinPathChars
  simp only
  split
  · rename_i hpath
    have hnone : segmentsOf path = [] := by
      rcases Bool.or_eq_true_iff.mp hpath with hp | hp
      · rw [List.isEmpty_iff.mp hp]
        rfl
      · rw [eq_of_beq hp]
        rfl
    rw [hnone, List.append_nil, ← hstem]
    split
    · rename_i hs
      rw [List.isEmpty_iff.mp hs]
      rfl
    · rfl
  · rw [segmentsOf_append_slash, segmentsOf_dropWhile_slash, hstem]

theorem joinPathChars_ne_nil (base path : List Char) : joinPathChars base path ≠ [] := by
  unfold joinPathChars
  simp only
  split
  · split
    · exact List.cons_ne_nil _ _
    · rename_i hs
      exact fun h => hs (List.isEmpty_iff.mpr h)
  · simp

theorem segments_joinPaths (base path : String) :
    segments (joinPaths base path) = segments base ++ segments path := by
  rw [segments, joinPaths, String.toList_ofList, segmentsOf_joinPathChars, List.map_append]
  rfl

theorem joinPaths_ne_empty (base path : String) : joinPaths base path ≠ "" := by
  intro h
  refine joinPathChars_ne_nil base.toList path.toList ?_
  rw [← String.toList_ofList (l := joinPathChars base.toList path.toList)]
  exact String.toList_eq_nil_iff.mpr h

namespace Descriptor

/-! ## Paths as they are given -/

/-- What a part states under a name. A field that is absent states nothing, like one that is
null. -/
def stated (name : String) (part : Value) : Value :=
  match part.exposed with
  | .map es => (Value.field? name es).getD .null
  | _ => .null

/-- The text of a value, in characters or in bytes. -/
def textOf? : Value → Option String
  | .text s => some s
  | .bytes bs => String.fromUTF8? ⟨bs.toArray⟩
  | _ => none

/-- The path that a route states: a mapping under `path`, a validated endpoint by itself. -/
def statedPath? (route : Value) : Option String :=
  match route.exposed with
  | .endpoint _ path _ => path
  | route => textOf? (stated "path" route)

/-- The path of the shared constructor of a class: if it states none, it leads to an instance by its
id. -/
def ctorPath (cls : Value) : String := (statedPath? (stated "http" (stated "ctor" cls))).getD "/:id"

/-- The classes of a service as they are given. -/
def givenClasses (service : Value) : List Value :=
  (itemsOf? (classList (stated "models" (serviceEntries service)))).getD []

variable {α : Type} {v : Value} {es : Mapping} {name : String}

theorem stated_of_exposed (h : v.exposed = .map es) :
    stated name v = (Value.field? name es).getD .null := by
  rw [stated, h]

/-- An optional field with one name is checked as what is stated, or it has its default. -/
theorem optional_plain_eq_accepted_iff {default a : α} {check : Check α} :
    (plain name).optional default check es = .accepted a ↔
      (∃ w, Value.field? name es = some w ∧ check w = .accepted a) ∨
        Value.field? name es = none ∧ a = default := by
  unfold Field.optional Field.locate? plain
  cases Value.field? name es with
  | none => simp [eq_comm]
  | some w => simp [Checked.under_eq_accepted_iff]

theorem textOf?_of_checkOptionalText {path : Option String}
    (h : checkOptionalText v = .accepted path) : textOf? v = path := by
  unfold checkOptionalText at h
  split at h
  · cases h
    rfl
  · obtain ⟨s, hs, rfl⟩ := Checked.map_eq_accepted_iff.mp h
    unfold checkText at hs
    split at hs
    · cases hs
      rfl
    · split at hs
      · cases hs
        assumption
      · cases hs
    · cases hs

/-- A mapping has the path that it states. -/
theorem path_of_checkEndpoint {e : Endpoint} (h : checkEndpoint v = .accepted e)
    (hne : ∀ verb path extra, v ≠ .endpoint verb path extra) :
    ∃ es, v.exposed = .map es ∧ e.path = textOf? ((Value.field? "path" es).getD .null) := by
  unfold checkEndpoint at h
  split at h
  · exact absurd rfl (hne _ _ _)
  · unfold checkPart at h
    split at h
    · rename_i es he
      refine ⟨es, he, ?_⟩
      obtain ⟨_, _, hg, -, rfl⟩ := Checked.seq_eq_accepted_iff.mp h
      obtain ⟨_, path, hm, hpath, rfl⟩ := Checked.seq_eq_accepted_iff.mp hg
      obtain ⟨verb, -, rfl⟩ := Checked.map_eq_accepted_iff.mp hm
      rcases optional_plain_eq_accepted_iff.mp hpath with ⟨w, hw, hc⟩ | ⟨hw, rfl⟩
      · rw [hw]
        exact (textOf?_of_checkOptionalText hc).symm
      · rw [hw]
        rfl
    · cases h

theorem bindingEntries_of_null (h : (Value.field? "path" es).getD .null = .null) :
    bindingEntries es = Entries.put (.text "path") (.text "/:id")
      (Entries.ofList ((.text "verb", .text "get") :: es)) := by
  rw [bindingEntries, h]

theorem bindingEntries_of_ne_null (h : (Value.field? "path" es).getD .null ≠ .null) :
    bindingEntries es = es := by
  unfold bindingEntries
  split
  · contradiction
  · rfl

theorem field?_put_self (es : Mapping) (v : Value) :
    Value.field? name (Entries.put (.text name) v es) = some v := by
  induction es with
  | nil => simp [Entries.put, Value.field?]
  | cons e es ih =>
    obtain ⟨k, w⟩ := e
    rw [Entries.put]
    by_cases hk : k = .text name
    · subst hk
      rw [if_pos (Value.beq_text_iff.mpr rfl), Value.field?, if_pos rfl]
    · rw [if_neg (mt Value.beq_text_iff.mp hk), Value.field?_cons_of_ne hk, ih]

/-- A route gets a path only if it states none. -/
theorem path_bindingEntries (es : Mapping) :
    (textOf? ((Value.field? "path" (bindingEntries es)).getD .null)).getD "/:id" =
      (textOf? ((Value.field? "path" es).getD .null)).getD "/:id" := by
  by_cases h : (Value.field? "path" es).getD .null = .null
  · rw [bindingEntries_of_null h, field?_put_self, h]
    rfl
  · rw [bindingEntries_of_ne_null h]

theorem completeBinding_ne_endpoint (v : Value) (verb : String) (path : Option String)
    (extra : List (String × Value)) : completeBinding v ≠ .endpoint verb path extra := by
  unfold completeBinding
  split
  · exact Value.noConfusion
  · exact Value.noConfusion
  · exact Value.noConfusion
  · rename_i hne _
    exact hne verb path extra

theorem path_completeBinding (v : Value) :
    (textOf? (stated "path" (completeBinding v))).getD "/:id" =
      (statedPath? v).getD "/:id" := by
  unfold completeBinding statedPath?
  cases v.exposed with
  | endpoint verb path extra =>
    have hpath : textOf? (Value.ofText? path) = path := by
      cases path <;> rfl
    calc (textOf? ((Value.field? "path"
            (bindingEntries (Value.endpointFields verb path extra))).getD .null)).getD "/:id"
        = (textOf? (Value.ofText? path)).getD "/:id" := path_bindingEntries _
      _ = path.getD "/:id" := by rw [hpath]
  | map es => exact path_bindingEntries es
  | _ => rfl

/-- A constructor has the path that its route states, and `/:id` if it states none. -/
theorem path_of_checkBinding {b : Binding} (h : checkBinding v = .accepted b) :
    b.path = (statedPath? v).getD "/:id" := by
  obtain ⟨e, he, rfl⟩ := Checked.map_eq_accepted_iff.mp h
  obtain ⟨es, hes, hpath⟩ := path_of_checkEndpoint he (completeBinding_ne_endpoint v)
  show e.path.getD "/:id" = (statedPath? v).getD "/:id"
  rw [hpath, ← stated_of_exposed hes, path_completeBinding]

/-- The route of a constructor may be absent altogether. -/
theorem path_of_checkCtor {ctor : Ctor} (h : checkCtor v = .accepted ctor) :
    ctor.http.path = (statedPath? (stated "http" v)).getD "/:id" := by
  unfold checkCtor checkPart at h
  split at h
  · rename_i es he
    obtain ⟨_, _, hg, -, rfl⟩ := Checked.seq_eq_accepted_iff.mp h
    obtain ⟨_, b, hm, hb, rfl⟩ := Checked.seq_eq_accepted_iff.mp hg
    obtain ⟨accepts, -, rfl⟩ := Checked.map_eq_accepted_iff.mp hm
    show b.path = (statedPath? (stated "http" v)).getD "/:id"
    rw [stated_of_exposed he]
    rcases optional_plain_eq_accepted_iff.mp hb with ⟨w, hw, hc⟩ | ⟨hw, rfl⟩
    · rw [hw, Option.getD_some]
      exact path_of_checkBinding hc
    · rw [hw]
      rfl
  · cases h

/-- A class has the constructor that it states. -/
theorem ctor_of_checkModelClass {c : ModelClass} {ctor : Ctor}
    (h : checkModelClass v = .accepted c) (hc : c.ctor = some ctor) :
    checkCtor (stated "ctor" v) = .accepted ctor := by
  obtain ⟨es, he, hparts⟩ := parts_of_checkModelClass h
  have hgiven := hparts.ctor
  rw [hc] at hgiven
  rw [stated_of_exposed he]
  rcases optional_plain_eq_accepted_iff.mp hgiven with ⟨w, hw, hcheck⟩ | ⟨-, hnone⟩
  · rw [hw, Option.getD_some]
    unfold checkOptionalCtor at hcheck
    split at hcheck
    · cases hcheck
    · obtain ⟨x, hx, hsome⟩ := Checked.map_eq_accepted_iff.mp hcheck
      cases hsome
      exact hx
  · cases hnone

theorem path_of_checkModelClass {c : ModelClass} {ctor : Ctor}
    (h : checkModelClass v = .accepted c) (hc : c.ctor = some ctor) :
    ctor.http.path = ctorPath v :=
  path_of_checkCtor (ctor_of_checkModelClass h hc)

/-- Each class of a service is what one of the given classes is accepted as. -/
theorem exists_givenClass {service : Service} {c : ModelClass} (h : build v = .ok service)
    (hc : c ∈ service.models) : ∃ cls ∈ givenClasses v, checkModelClass cls = .accepted c := by
  have hs := checkService_of_build h
  unfold checkService checkPart at hs
  split at hs
  case h_2 => cases hs
  case h_1 es he =>
    obtain ⟨_, _, hm, -, rfl⟩ := Checked.seq_eq_accepted_iff.mp hs
    obtain ⟨models, hmodels, rfl⟩ := Checked.map_eq_accepted_iff.mp hm
    rw [givenClasses, stated_of_exposed he]
    rcases optional_plain_eq_accepted_iff.mp hmodels with ⟨w, hw, hcheck⟩ | ⟨-, rfl⟩
    · rw [hw, Option.getD_some]
      unfold checkList at hcheck
      split at hcheck
      · rename_i items hitems
        rw [hitems]
        exact exists_of_checkItems hcheck hc
      · cases hcheck
    · cases hc

end Descriptor

open Descriptor (Ctor)

/-! ## Paths of methods -/

/-- Whether a text is a name without the first `prototype.` in it. -/
inductive Unmarked : String → String → Prop
  | plain {name : String} (h : ¬ "prototype.".toList <:+: name.toList) : Unmarked name name
  | marked {before after : String} (h : ¬ "prototype.".toList <:+: before.toList) :
    Unmarked (before ++ "prototype." ++ after) (before ++ after)

/-- Whether a method has a path by itself: the one that its route states, or its name behind a
slash. -/
inductive OwnPath (m : Descriptor.Method) : String → Prop
  | stated {route : Descriptor.Endpoint} {path : String} (hr : m.http = some route)
    (hp : route.path = some path) : OwnPath m path
  | named {name : String} (hr : ∀ route ∈ m.http, route.path = none)
    (hn : Unmarked m.name name) : OwnPath m ("/" ++ name)

/-- The path that a method states by itself, or the name of the method. -/
def methodPath (m : Descriptor.Method) : String :=
  (m.http.bind Descriptor.Endpoint.path).getD ("/" ++ plainMethodName m.name)

theorem plainMethodName_of_not_isInfix {name : String}
    (h : ¬ instanceMark.toList <:+: name.toList) : plainMethodName name = name := by
  have hne : instanceMark.toList ≠ [] := by decide
  rw [plainMethodName, Text.replaceFirst, Text.replaceFirstChars_of_not_isInfix hne h,
    String.ofList_toList]

theorem plainMethodName_append {before after : String}
    (h : ¬ instanceMark.toList <:+: before.toList) :
    plainMethodName (before ++ instanceMark ++ after) = before ++ after := by
  -- The mark ends in its only dot, so it does not meet another occurrence of itself.
  have hmark : instanceMark.toList = "prototype".toList ++ ['.'] := by decide
  have hdot : '.' ∉ "prototype".toList := by decide
  have hname : (before ++ instanceMark ++ after).toList =
      before.toList ++ ("prototype".toList ++ '.' :: after.toList) := by
    rw [String.toList_append, String.toList_append, List.append_assoc]
    rfl
  rw [hmark] at h
  rw [plainMethodName, Text.replaceFirst, hname, hmark, Text.replaceFirstChars_concat hdot h]
  simp

theorem unmarked_iff {name s : String} : Unmarked name s ↔ s = plainMethodName name := by
  constructor
  · rintro (h | h)
    · exact (plainMethodName_of_not_isInfix h).symm
    · exact (plainMethodName_append h).symm
  · rintro rfl
    by_cases h : instanceMark.toList <:+: name.toList
    · obtain ⟨before, after, hname, hfirst⟩ := Text.exists_first_of_isInfix (by decide) h
      obtain rfl : name = String.ofList before ++ instanceMark ++ String.ofList after := by
        rw [← String.toList_inj, hname]
        simp
      rw [← String.toList_ofList (l := before)] at hfirst
      rw [plainMethodName_append hfirst]
      exact .marked hfirst
    · rw [plainMethodName_of_not_isInfix h]
      exact .plain h

theorem ownPath_iff {m : Descriptor.Method} {path : String} :
    OwnPath m path ↔ path = methodPath m := by
  unfold methodPath
  constructor
  · rintro (⟨hr, hp⟩ | ⟨hr, hn⟩)
    · rw [hr, Option.bind_some, hp, Option.getD_some]
    · rw [Option.bind_eq_none_iff.mpr hr, unmarked_iff.mp hn, Option.getD_none]
  · rintro rfl
    cases h : m.http.bind Descriptor.Endpoint.path with
    | none => exact .named (Option.bind_eq_none_iff.mp h) (unmarked_iff.mpr rfl)
    | some path =>
      obtain ⟨route, hr, hp⟩ := Option.bind_eq_some_iff.mp h
      exact .stated hr hp

/-- A method as it is described in a class whose constructor has the given path. -/
structure DescribedFrom (base : String) (ctor : Ctor) (m : Descriptor.Method)
    (described : Method) : Prop where
  name : described.name = m.name
  isStatic : described.isStatic = m.isStatic
  ownPath : ∀ path, OwnPath m path ↔ path = methodPath m
  segments : m.isStatic = false →
    segments described.http.path = segments base ++ segments (methodPath m)
  path_ne_empty : m.isStatic = false → described.http.path ≠ ""
  accepts : m.isStatic = false →
    described.accepts = ctor.accepts.map Param.ofDescriptor ++ m.accepts.map Param.ofDescriptor

theorem path_routeOf {m : Descriptor.Method} (base : String) (h : m.isStatic = false) :
    (routeOf base m).path = joinPaths base (methodPath m) := by
  rw [routeOf, h]
  rfl

theorem describedFrom_ofDescriptor (ctor : Ctor) (m : Descriptor.Method) :
    DescribedFrom ctor.http.path ctor m (Method.ofDescriptor ctor m) where
  name := rfl
  isStatic := rfl
  ownPath _ := ownPath_iff
  segments hm := by
    show segments (routeOf ctor.http.path m).path = _
    rw [path_routeOf _ hm, segments_joinPaths]
  path_ne_empty hm := by
    show (routeOf ctor.http.path m).path ≠ ""
    rw [path_routeOf _ hm]
    exact joinPaths_ne_empty _ _
  accepts hm := by
    rw [Method.ofDescriptor]
    simp only [hm, Bool.false_eq_true, if_false]

/-- Every instance method of a described class has the arguments and the path of the constructor
before its own, wherever the constructor leaves its path out. -/
theorem describedFrom_of_build {v : Value} {service : Descriptor.Service} {e : String × Model}
    (h : Descriptor.build v = .ok service) (he : e ∈ (describeModels service).1) :
    ∃ cls ∈ Descriptor.givenClasses v, ∃ c ctor, Descriptor.checkModelClass cls = .accepted c ∧
      c.name = e.1 ∧ c.ctor = some ctor ∧
      List.Forall₂ (DescribedFrom (Descriptor.ctorPath cls) ctor) c.methods e.2.methods := by
  obtain ⟨c, hc, ctor, hctor, rfl⟩ := mem_describeModels he
  obtain ⟨cls, hcls, hcheck⟩ := Descriptor.exists_givenClass h hc
  refine ⟨cls, hcls, c, ctor, hcheck, rfl, hctor, ?_⟩
  rw [← Descriptor.path_of_checkModelClass hcheck hctor]
  show List.Forall₂ _ c.methods (c.methods.map (Method.ofDescriptor ctor))
  rw [List.forall₂_map_right_iff, List.forall₂_same]
  intro m _
  exact describedFrom_ofDescriptor ctor m

/-- A class whose constructor is given by some fields, with the instance method `share`, which states
its path, and one that is called by its name. -/
def rawShared (name : String) (ctor : List (Value × Value)) : Value :=
  .map [(.text "name", .text name),
    (.text "ctor", .map ((.text "accepts", .map [(.text "arg", .text "id")]) :: ctor)),
    (.text "methods", .list
      [.map [(.text "name", .text "prototype.share"), (.text "isStatic", .bool false),
        (.text "accepts", .map [(.text "arg", .text "email")]),
        (.text "http", .map [(.text "path", .text "//share/all")])],
      .map [(.text "name", .text "prototype.touch/prototype.all"),
        (.text "isStatic", .bool false)]])]

/-- Five ways to state no path for a constructor, and one path that ends in a slash. -/
def rawSharedClasses : List Value :=
  [rawShared "Absent" [], rawShared "Null" [(.text "http", .null)],
    rawShared "Pathless" [(.text "http", .map [(.text "verb", .text "get")])],
    rawShared "NullPath" [(.text "http", .map [(.text "path", .null)])],
    rawShared "Validated" [(.text "http", .endpoint "post" none [])],
    rawShared "Stated" [(.text "http", .map [(.text "path", .text "/at/:key/")])]]

/-- The paths of both methods in each of the classes. -/
def sharedPaths : List (List String) :=
  List.replicate 5 ["/:id/share/all", "/:id/touch/prototype.all"] ++
    [["/at/:key/share/all", "/at/:key/touch/prototype.all"]]

theorem describedFrom_of_build_shared :
    ∃ service, Descriptor.build (.list rawSharedClasses) = .ok service ∧
      ((describeModels service).1.map fun e => e.2.methods.map fun m => m.http.path) =
        sharedPaths ∧
      ∀ e ∈ (describeModels service).1, ∃ cls ∈ Descriptor.givenClasses (.list rawSharedClasses),
        ∃ c ctor, Descriptor.checkModelClass cls = .accepted c ∧ c.name = e.1 ∧
          c.ctor = some ctor ∧
          List.Forall₂ (DescribedFrom (Descriptor.ctorPath cls) ctor) c.methods e.2.methods := by
  have h : ∃ service, Descriptor.build (.list rawSharedClasses) = .ok service ∧
      ((describeModels service).1.map fun e => e.2.methods.map fun m => m.http.path) =
        sharedPaths := by
    decide +kernel
  obtain ⟨service, hs, hpaths⟩ := h
  exact ⟨service, hs, hpaths, fun e he => describedFrom_of_build hs he⟩

end RemoteBindings
