import Mathlib.Data.List.TakeWhile
import RemoteBindings.Proofs.Bindings
import RemoteBindings.Proofs.InstanceRoutes

/-!
# Paths that begin with a slash

The contract of a repository writes the path of a remote method right behind the plural name of the
model, so the name is a segment of its own if the path is `Rooted` (`segments_pattern`). A joined
path is rooted exactly if its base is (`rooted_joinPaths_iff`), and a static method keeps the path
that it states, so which paths are rooted is decided by the descriptor alone (`rooted_iff`).
-/

namespace RemoteBindings

/-- Whether a path is empty or begins with a slash. -/
def Rooted (path : String) : Prop := path = "" ∨ path.toList.head? = some '/'

instance : DecidablePred Rooted := fun path =>
  inferInstanceAs (Decidable (path = "" ∨ path.toList.head? = some '/'))

/-- The address of a remote method, as the contract gives it. -/
def Selector.pattern (pluralName : String) (s : Selector) : String :=
  "/" ++ pluralName ++ s.httpPath

theorem rooted_iff_head {path : String} : Rooted path ↔ ∀ c ∈ path.toList.head?, c = '/' := by
  rw [Rooted, ← String.toList_eq_nil_iff]
  cases path.toList with
  | nil => simp
  | cons c cs => simp

theorem rooted_slash_append (path : String) : Rooted ("/" ++ path) := by
  right
  rw [String.toList_append]
  rfl

/-! ## Joined paths -/

theorem dropEndWhile_prefix (p : Char → Bool) (cs : List Char) : Text.dropEndWhile p cs <+: cs := by
  have hsuffix := List.dropWhile_suffix (l := cs.reverse) p
  rwa [← List.reverse_prefix, List.reverse_reverse] at hsuffix

/-- What is left of a base without its final slashes begins like the base, unless all of it are
slashes. -/
theorem dropEndWhile_slash_cases (base : List Char) :
    (Text.dropEndWhile (· == '/') base = [] ∧ ∀ c ∈ base, c = '/') ∨
      (Text.dropEndWhile (· == '/') base).head? = base.head? ∧
        Text.dropEndWhile (· == '/') base ≠ [] := by
  cases hs : Text.dropEndWhile (· == '/') base with
  | nil =>
    refine .inl ⟨rfl, fun c hc => ?_⟩
    have hnil : base.reverse.dropWhile (· == '/') = [] := List.reverse_eq_nil_iff.mp hs
    have hall := List.dropWhile_eq_nil_iff.mp hnil
    exact eq_of_beq (hall c (List.mem_reverse.mpr hc))
  | cons c stem =>
    have hprefix := dropEndWhile_prefix (· == '/') base
    rw [hs] at hprefix
    obtain ⟨rest, hrest⟩ := hprefix
    refine .inr ⟨?_, List.cons_ne_nil _ _⟩
    rw [← hrest]
    rfl

theorem head?_joinPathChars (base path : List Char) :
    (∀ c ∈ (joinPathChars base path).head?, c = '/') ↔ ∀ c ∈ base.head?, c = '/' := by
  unfold joinPathChars
  simp only
  rcases dropEndWhile_slash_cases base with ⟨hs, hall⟩ | ⟨hh, hne⟩
  · -- a base of slashes is rooted, and so is what is made of it
    have hbase : ∀ c ∈ base.head?, c = '/' := fun c hc => hall c (List.mem_of_mem_head? hc)
    rw [hs]
    refine iff_of_true ?_ hbase
    split
    · intro c hc
      exact (Option.some.inj hc).symm
    · intro c hc
      exact (Option.some.inj hc).symm
  · have hempty : (Text.dropEndWhile (· == '/') base).isEmpty = false :=
      List.isEmpty_eq_false_iff.mpr hne
    rw [hempty, if_neg Bool.false_ne_true, ← hh]
    split
    · exact Iff.rfl
    · rw [List.head?_append_of_ne_nil _ hne]

theorem rooted_joinPaths_iff (base path : String) : Rooted (joinPaths base path) ↔ Rooted base := by
  rw [rooted_iff_head, rooted_iff_head, joinPaths, String.toList_ofList]
  exact head?_joinPathChars base.toList path.toList

/-- Behind a rooted path the plural name is a segment of its own. -/
theorem segments_pattern {s : Selector} (pluralName : String) (h : Rooted s.httpPath) :
    segments (s.pattern pluralName) = segments pluralName ++ segments s.httpPath := by
  have hchars : segmentsOf (s.pattern pluralName).toList =
      segmentsOf (pluralName.toList ++ s.httpPath.toList) := by
    rw [Selector.pattern, String.append_assoc, String.toList_append, String.toList_append]
    exact segmentsOf_slash_cons _
  rw [segments, segments, segments, hchars, ← List.map_append]
  rcases h with h | h
  · rw [h]
    simp [segmentsOf]
  · obtain ⟨rest, hrest⟩ := List.head?_eq_some_iff.mp h
    rw [hrest, segmentsOf_append_slash, segmentsOf_slash_cons]

/-! ## Methods -/

/-- Whether the path that a method gets in a class begins with a slash: a static method keeps the
path that it states, an instance method goes on from the constructor. -/
def StatesRooted (ctor : Descriptor.Ctor) (m : Descriptor.Method) : Prop :=
  if m.isStatic then ∀ path ∈ m.http.bind Descriptor.Endpoint.path, Rooted path
  else Rooted ctor.http.path

theorem rooted_methodPath_iff (m : Descriptor.Method) :
    Rooted (methodPath m) ↔ ∀ path ∈ m.http.bind Descriptor.Endpoint.path, Rooted path := by
  unfold methodPath
  cases m.http.bind Descriptor.Endpoint.path with
  | none => exact iff_of_true (rooted_slash_append _) nofun
  | some path => simp

theorem rooted_path_iff (ctor : Descriptor.Ctor) (m : Descriptor.Method) :
    Rooted (Method.ofDescriptor ctor m).http.path ↔ StatesRooted ctor m := by
  show Rooted (routeOf ctor.http.path m).path ↔ _
  unfold StatesRooted
  cases hm : m.isStatic with
  | true =>
    rw [routeOf, hm]
    exact rooted_methodPath_iff m
  | false =>
    rw [path_routeOf _ hm]
    exact rooted_joinPaths_iff _ _

open ObjC

variable {service : Descriptor.Service} {classPrefix : String} {b : Bindings} {e : String × Model}

/-- The methods of a model in the bindings are those of its class, listed and flagged. -/
theorem methods_of_bindService (h : (bindService service classPrefix).toExcept = .ok b)
    (he : e ∈ b.models) :
    ∃ c ∈ service.models, ∃ ctor, c.name = e.1 ∧ c.ctor = some ctor ∧
      e.2.methods =
        c.methods.map fun m => flagged b.registry e.2 (Method.ofDescriptor ctor m).listed := by
  obtain ⟨d, hd, hkey, hfin⟩ := finished_of_bindService h he
  obtain ⟨c, hc, ctor, hctor, rfl⟩ := mem_describeModels hd
  refine ⟨c, hc, ctor, hkey, hctor, ?_⟩
  have hover (m : Method) : overloads b.registry e.2 m =
      overloads b.registry (named b.registry
        (groupScopes b.registry (Model.ofDescriptor c ctor)).1) m := by
    rw [hfin]
    exact overloads_congr rfl rfl
  simp only [flagged, hover]
  rw [hfin]
  show (groupScopes b.registry (Model.ofDescriptor c ctor)).1.methods.map _ = _
  rw [groupScopes_methods, List.map_map]
  show (c.methods.map _).map _ = _
  rw [List.map_map]
  rfl

theorem http_listed (m : Method) : m.listed.http = m.http := by
  unfold Method.listed
  split <;> rfl

/-- All remote methods of a model have rooted paths exactly if this is what their class and its
constructor state, and then the plural name is a segment of its own in their addresses. -/
theorem rooted_iff (h : (bindService service classPrefix).toExcept = .ok b) (he : e ∈ b.models) :
    ∃ c ∈ service.models, ∃ ctor, c.name = e.1 ∧ c.ctor = some ctor ∧
      ((∀ s ∈ e.2.selectors, Rooted s.httpPath) ↔
        List.Forall₂ (fun m bound => bound.generated = true → StatesRooted ctor m) c.methods
          e.2.methods) ∧
      ∀ s ∈ e.2.selectors, Rooted s.httpPath →
        segments (s.pattern e.2.pluralName) =
          segments e.2.pluralName ++ segments s.httpPath := by
  obtain ⟨c, hc, ctor, hname, hctor, hmethods⟩ := methods_of_bindService h he
  refine ⟨c, hc, ctor, hname, hctor, ?_, fun s _ hs => segments_pattern _ hs⟩
  have hpath (m : Descriptor.Method) (s : Selector)
      (hs : s ∈ overloads b.registry e.2 (Method.ofDescriptor ctor m).listed) :
      Rooted s.httpPath ↔ StatesRooted ctor m := by
    rw [(route_of_mem_overloads hs).2.2, http_listed]
    exact rooted_path_iff ctor m
  rw [selectors_of_bindService h he, hmethods, List.forall₂_map_right_iff, List.forall₂_same,
    List.flatMap_map]
  simp only [overloads_flagged]
  constructor
  · intro hall m hm hflag
    -- a flagged method has an overload, whose path is that of the method
    obtain ⟨s, hs⟩ := List.exists_mem_of_ne_nil _ (by simpa [flagged] using hflag)
    exact (hpath m s hs).mp (hall s (List.mem_flatMap.mpr ⟨m, hm, hs⟩))
  · intro hall s hs
    obtain ⟨m, hm, hs⟩ := List.mem_flatMap.mp hs
    refine (hpath m s hs).mpr (hall m hm ?_)
    have hne := List.ne_nil_of_mem hs
    simpa [flagged] using hne

/-- A class with the static method `touch` and the instance method `share`. -/
def rawRouted (ctorPath touchPath : String) : Value :=
  .map [(.text "name", .text "Note"),
    (.text "ctor", .map [(.text "http", .map [(.text "path", .text ctorPath)])]),
    (.text "settings", .map [(.text "base", .text "Model")]),
    (.text "methods", .list
      [.map [(.text "name", .text "touch"), (.text "http", .map [(.text "path", .text touchPath)])],
        .map [(.text "name", .text "prototype.share"), (.text "isStatic", .bool false)]])]

theorem rooted_iff_note :
    ∃ service, Descriptor.build (.list [rawRouted "/:id" "/touch"]) = .ok service ∧
      ∃ b, (bindService service "").toExcept = .ok b ∧ ∃ e ∈ b.models,
        e.2.selectors.map (Selector.pattern e.2.pluralName) =
          ["/Notes/touch", "/Notes/:id/share"] ∧
        (∀ s ∈ e.2.selectors, Rooted s.httpPath) ∧
        ∃ c ∈ service.models, ∃ ctor, c.name = e.1 ∧ c.ctor = some ctor ∧
          ((∀ s ∈ e.2.selectors, Rooted s.httpPath) ↔
            List.Forall₂ (fun m bound => bound.generated = true → StatesRooted ctor m) c.methods
              e.2.methods) ∧
          ∀ s ∈ e.2.selectors, Rooted s.httpPath →
            segments (s.pattern e.2.pluralName) =
              segments e.2.pluralName ++ segments s.httpPath := by
  have h : ∃ service, Descriptor.build (.list [rawRouted "/:id" "/touch"]) = .ok service ∧
      ∃ b, (bindService service "").toExcept = .ok b ∧ ∃ e ∈ b.models,
        e.2.selectors.map (Selector.pattern e.2.pluralName) =
          ["/Notes/touch", "/Notes/:id/share"] ∧
        ∀ s ∈ e.2.selectors, Rooted s.httpPath := by
    decide +kernel
  obtain ⟨service, hs, b, hb, e, he, hpatterns, hrooted⟩ := h
  exact ⟨service, hs, b, hb, e, he, hpatterns, hrooted, rooted_iff hb he⟩

/-- Paths without a slash in front run into the plural name: that of a static method, and that of a
constructor. -/
theorem not_rooted :
    ∃ service, Descriptor.build (.list [rawRouted ":id" "touch"]) = .ok service ∧
      ∃ b, (bindService service "").toExcept = .ok b ∧ ∃ e ∈ b.models,
        e.2.selectors.map (Selector.pattern e.2.pluralName) = ["/Notestouch", "/Notes:id/share"] ∧
        ∀ s ∈ e.2.selectors, ¬ Rooted s.httpPath := by
  decide +kernel

end RemoteBindings
