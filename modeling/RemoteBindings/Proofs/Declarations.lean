import RemoteBindings.Proofs.Registry
import RemoteBindings.Proofs.Service

/-!
# Declared classes

The headers of a model declare its own class and, ahead of use, the `referencedClasses`, which are
the other generated classes that its selectors or its relations mention (`mem_referencedClasses`).
Every type in a prototype is one of the client library, or it is declared so, with one exception: an
argument may state a model that is not exposed, and its class is then taken to be in the library
(`declared_of_bindService`).
-/

namespace RemoteBindings

namespace ObjC

variable {r : Registry} {model : Model} {p : Param} {generated : List String} {cls type : String}

/-- The argument types that need no declaration. -/
def libraryArgumentTypes : List String :=
  ["id", "NSDictionary *", "NSNumber *", "NSString *", "NSArray *"]

/-- The return types that need no declaration. -/
def libraryReturnTypes : List String :=
  ["void", "BOOL", "NSDictionary", "NSNumber", "NSString", "NSArray"]

/-- The classes that the headers of a model declare. -/
def declaredClasses (generated : List String) (model : Model) : List String :=
  model.className :: referencedClasses generated model

/-- Whether an argument may have the class under the name that its parameter states, as there is no
generated class of that name. -/
def NamesLibraryClass (r : Registry) (cls : String) (p : Param) : Prop :=
  p.model = some cls ∧ cls ≠ "" ∧ (r.classOf? cls = none ∨ r.classOf? cls = some "")

/-! ## Referenced classes -/

/-- The fold behind `referencedClasses` adds the mentioned classes that pass its test. -/
theorem mem_foldl_unlessPresent (p : String → Bool) (xs acc : List String) :
    cls ∈ xs.foldl (fun cs x => if p x && !cs.contains x then cs ++ [x] else cs) acc ↔
      cls ∈ acc ∨ cls ∈ xs ∧ p cls = true := by
  induction xs generalizing acc with
  | nil => simp
  | cons x xs ih =>
    rw [List.foldl_cons, ih]
    by_cases hx : (p x && !acc.contains x) = true
    · have hp := (Bool.and_eq_true_iff.mp hx).1
      rw [if_pos hx, List.mem_append, List.mem_singleton, List.mem_cons]
      constructor
      · rintro ((h | rfl) | h)
        · exact .inl h
        · exact .inr ⟨.inl rfl, hp⟩
        · exact .inr ⟨.inr h.1, h.2⟩
      · rintro (h | ⟨rfl | h, hc⟩)
        · exact .inl (.inl h)
        · exact .inl (.inr rfl)
        · exact .inr ⟨h, hc⟩
    · rw [if_neg hx, List.mem_cons]
      refine ⟨fun h => h.imp_right fun h => ⟨.inr h.1, h.2⟩, ?_⟩
      rintro (h | ⟨rfl | h, hc⟩)
      · exact .inl h
      · exact .inl (by simpa [hc] using hx)
      · exact .inr ⟨h, hc⟩

theorem mem_referencedClasses :
    cls ∈ referencedClasses generated model ↔
      cls ∈ mentioned model ∧ cls ∈ generated ∧ cls ≠ model.className := by
  unfold referencedClasses
  rw [mem_foldl_unlessPresent (fun c => generated.contains c && c != model.className)]
  simp

theorem nodup_foldl_unlessPresent (p : String → Bool) (xs acc : List String) (h : acc.Nodup) :
    (xs.foldl (fun cs x => if p x && !cs.contains x then cs ++ [x] else cs) acc).Nodup := by
  induction xs generalizing acc with
  | nil => exact h
  | cons x xs ih =>
    rw [List.foldl_cons]
    split
    · rename_i hx
      refine ih _ (List.nodup_append.mpr ⟨h, by simp, fun a ha b hb => ?_⟩)
      rintro rfl
      simp [List.mem_singleton.mp hb ▸ ha] at hx
    · exact ih _ h

theorem nodup_referencedClasses : (referencedClasses generated model).Nodup :=
  nodup_foldl_unlessPresent (fun c => generated.contains c && c != model.className) _ _
    List.nodup_nil

theorem pointedClass?_pointer (cls : String) : pointedClass? (pointer cls) = some cls := by
  have ht : (cls ++ " *").toList.take ((cls ++ " *").length - " *".length) = cls.toList := by
    simp [String.toList_append, ← String.length_toList]
  rw [pointedClass?, pointer, Text.beforeEnd?, if_pos, ht, String.ofList_toList]
  simp [List.isSuffixOf_iff_suffix]

theorem mem_mentioned_of_returnType {s : Selector} (hs : s ∈ model.selectors) :
    s.returnType ∈ mentioned model := by
  refine List.mem_append_right _ (List.mem_flatMap.mpr ⟨s, hs, ?_⟩)
  exact List.mem_cons_self

theorem mem_mentioned_of_argument {s : Selector} {a : Argument} (hs : s ∈ model.selectors)
    (ha : a ∈ s.arguments) (hc : a.type = pointer cls) : cls ∈ mentioned model := by
  refine List.mem_append_right _ (List.mem_flatMap.mpr ⟨s, hs, List.mem_cons_of_mem _ ?_⟩)
  exact List.mem_filterMap.mpr ⟨a, ha, by rw [hc, pointedClass?_pointer]⟩

/-- A generated class that a model mentions is declared in its headers. -/
theorem mem_declaredClasses (hm : cls ∈ mentioned model) (hg : cls ∈ generated) :
    cls ∈ declaredClasses generated model := by
  by_cases h : cls = model.className
  · exact h ▸ List.mem_cons_self
  · exact List.mem_cons_of_mem _ (mem_referencedClasses.mpr ⟨hm, hg, h⟩)

/-! ## Types in prototypes -/

theorem mem_argumentTypes_of_argumentRow? {t : Value} {name row : String}
    (h : argumentRow? t name = some row) : row ∈ argumentTypes.map Prod.snd := by
  have hl {key : String} (h : argumentTypes.lookup key = some row) :
      row ∈ argumentTypes.map Prod.snd :=
    List.mem_map_of_mem (Entries.mem_of_lookup_eq_some h)
  unfold argumentRow? at h
  cases t with
  | text t =>
    simp only at h
    split at h
    · exact hl h
    · rcases Option.or_eq_some_iff.mp h with h | ⟨-, h⟩ <;> exact hl h
  | _ =>
    simp only at h
    split at h
    · exact hl h
    · cases h

/-- The type of a parameter is one of the library, or it points to the class of the argument. -/
theorem parameterType?_cases (h : parameterType? r model p = some type) :
    type ∈ libraryArgumentTypes ∨ type = pointer (argumentClass r model.className p) := by
  obtain ⟨row, hr, rfl⟩ := Option.map_eq_some_iff.mp h
  have hr := mem_argumentTypes_of_argumentRow? hr
  split
  · exact .inr rfl
  · rename_i hm
    left
    revert hr
    simp only [argumentTypes, libraryArgumentTypes, List.map_cons, List.map_nil, List.mem_cons,
      List.not_mem_nil, hm]
    tauto

theorem argumentClass_cases (r : Registry) (modelClass : String) (p : Param) :
    argumentClass r modelClass p = modelClass ∨
      (∃ n ∈ r.names, argumentClass r modelClass p = className n r.classPrefix) ∨
      NamesLibraryClass r (argumentClass r modelClass p) p := by
  unfold argumentClass
  split
  · exact .inl rfl
  · exact .inl rfl
  · rename_i name hne hp
    split
    · exact .inr (.inr ⟨hp, hne, .inl ‹_›⟩)
    · exact .inr (.inr ⟨hp, hne, .inr ‹_›⟩)
    · rename_i cls _ hc
      obtain ⟨n, hn, rfl⟩ := Option.map_eq_some_iff.mp hc
      exact .inr (.inl ⟨n, List.mem_of_find?_eq_some hn, rfl⟩)

/-- The types of the table are those of the library. -/
theorem mem_libraryReturnTypes_iff :
    type ∈ libraryReturnTypes ↔ type ∈ returnTypes.map Prod.snd := by
  simp only [returnTypes, libraryReturnTypes, List.map_cons, List.map_nil, List.mem_cons,
    List.not_mem_nil]
  tauto

theorem mem_libraryReturnTypes_of_lookup {key : String} (h : returnTypes.lookup key = some type) :
    type ∈ libraryReturnTypes :=
  mem_libraryReturnTypes_iff.mpr (List.mem_map_of_mem (Entries.mem_of_lookup_eq_some h))

theorem returnType?_cases {modelName modelClass : String} {returnsArray : Bool} {t : Value}
    (h : returnType? r modelName modelClass returnsArray t = some type) :
    type ∈ libraryReturnTypes ∨ type = modelClass ∨
      ∃ n ∈ r.names, type = className n r.classPrefix := by
  unfold returnType? at h
  split at h
  · exact .inl (mem_libraryReturnTypes_of_lookup h)
  split at h
  · cases h
    exact .inr (.inl rfl)
  split at h
  · rename_i cls hc
    cases h
    obtain ⟨n, hn, rfl⟩ := Option.map_eq_some_iff.mp hc
    exact .inr (.inr ⟨n, Registry.mem_names_of_resolveValue? hn, rfl⟩)
  · obtain ⟨key, -, h⟩ := Option.bind_eq_some_iff.mp h
    exact .inl (mem_libraryReturnTypes_of_lookup h)

end ObjC

open ObjC

variable {service : Descriptor.Service} {classPrefix : String} {b : Bindings} {e : String × Model}

/-- Every class in a prototype is one of the library or declared in the headers of the model, or it
stands under the name that the parameter of the argument states for a model that has no generated
class. -/
theorem declared_of_bindService (h : (bindService service classPrefix).toExcept = .ok b)
    (he : e ∈ b.models) {s : Selector} (hs : s ∈ e.2.selectors) :
    (∀ a ∈ s.arguments, a.type ∈ libraryArgumentTypes ∨
      (∃ cls ∈ declaredClasses (b.models.values.map Model.className) e.2, a.type = pointer cls) ∨
      ∃ m ∈ e.2.methods, m.name = s.rawName ∧ ∃ p ∈ m.accepts, p.arg = a.arg ∧
        ∃ cls, NamesLibraryClass b.registry cls p ∧ a.type = pointer cls) ∧
    (s.returnType ∈ libraryReturnTypes ∨
      s.returnType ∈ declaredClasses (b.models.values.map Model.className) e.2) := by
  have hg {n : String} (hn : n ∈ b.registry.names) :
      className n b.registry.classPrefix ∈ b.models.values.map Model.className := by
    rw [classNames_of_bindService h]
    exact List.mem_map_of_mem hn
  obtain ⟨m, hm, ho⟩ := List.mem_flatMap.mp (selectors_of_bindService h he ▸ hs)
  obtain ⟨pass, -, ha⟩ := mem_overloads.mp ho
  obtain ⟨-, arguments, type, hargs, ht, -, hsel⟩ := attempt_selector ha
  have harg : s.arguments = arguments := by rw [hsel]; rfl
  have hret : s.returnType = type := by rw [hsel]; rfl
  refine ⟨fun a hmem => ?_, ?_⟩
  · obtain ⟨p, hp, hok⟩ := argumentOf_of_mem hargs (harg ▸ hmem)
    obtain ⟨type, hpt, rfl⟩ := argumentOf_eq_ok_iff.mp hok
    rcases parameterType?_cases hpt with hl | rfl
    · exact .inl hl
    rcases argumentClass_cases b.registry e.2.className p with hc | ⟨n, hn, hc⟩ | hc
    · exact .inr (.inl ⟨_, List.mem_cons_self, by rw [hc]⟩)
    · refine .inr (.inl ⟨_, mem_declaredClasses ?_ (hg hn), by rw [hc]⟩)
      exact mem_mentioned_of_argument hs hmem (by rw [hc])
    · refine .inr (.inr ⟨m, hm, by rw [hsel]; rfl, p, ?_, rfl, _, hc, rfl⟩)
      exact (List.mem_filter.mp hp).1
  · rcases returnType?_cases (hret ▸ ht) with hl | hc | ⟨n, hn, hc⟩
    · exact .inl hl
    · exact .inr (hc ▸ List.mem_cons_self)
    · exact .inr (mem_declaredClasses (mem_mentioned_of_returnType hs) (hc ▸ hg hn))

/-- A class with the method `label`, which takes an instance of the given model. -/
def rawLabelled (model : String) : Value :=
  rawClass "Note" [(.text "methods", .list [.map [(.text "name", .text "label"),
    (.text "isStatic", .bool true),
    (.text "accepts", .list [.map [(.text "arg", .text "data"), (.text "type", .text "object"),
      (.text "model", .text model), (.text "required", .bool true)]])]])]

/-- The headers declare the class of an argument that belongs to another model. -/
theorem declared_of_bindService_tag :
    ∃ service, Descriptor.build (.list [rawLabelled "Tag", rawClass "Tag" []]) = .ok service ∧
      ∃ b, (bindService service "").toExcept = .ok b ∧ ∃ e ∈ b.models, ∃ s ∈ e.2.selectors,
        (∃ a ∈ s.arguments, a.type = "Tag *") ∧
        (∀ a ∈ s.arguments, a.type ∈ libraryArgumentTypes ∨
          (∃ cls ∈ declaredClasses (b.models.values.map Model.className) e.2,
            a.type = pointer cls) ∨
          ∃ m ∈ e.2.methods, m.name = s.rawName ∧ ∃ p ∈ m.accepts, p.arg = a.arg ∧
            ∃ cls, NamesLibraryClass b.registry cls p ∧ a.type = pointer cls) ∧
        (s.returnType ∈ libraryReturnTypes ∨
          s.returnType ∈ declaredClasses (b.models.values.map Model.className) e.2) := by
  have h : ∃ service, Descriptor.build (.list [rawLabelled "Tag", rawClass "Tag" []]) =
      .ok service ∧ ∃ b, (bindService service "").toExcept = .ok b ∧
        ∃ e ∈ b.models, ∃ s ∈ e.2.selectors, ∃ a ∈ s.arguments, a.type = "Tag *" := by
    decide +kernel
  obtain ⟨service, hs, b, hb, e, he, s, hsel, ha⟩ := h
  exact ⟨service, hs, b, hb, e, he, s, hsel, ha, declared_of_bindService hb he hsel⟩

/-- Nothing declares the class of a model that is not exposed. -/
theorem not_declared_of_hidden_model :
    ∃ service, Descriptor.build (.list [rawLabelled "Ghost"]) = .ok service ∧
      ∃ b, (bindService service "").toExcept = .ok b ∧ ∃ e ∈ b.models, ∃ s ∈ e.2.selectors,
        ∃ a ∈ s.arguments, ¬ (a.type ∈ libraryArgumentTypes ∨
          ∃ cls ∈ declaredClasses (b.models.values.map Model.className) e.2,
            a.type = pointer cls) := by
  decide +kernel

end RemoteBindings
