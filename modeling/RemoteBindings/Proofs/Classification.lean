import RemoteBindings.Proofs.ResultKinds
import RemoteBindings.Proofs.SelectorFields

/-!
# Selectors as they are described

An instance is sent as its dictionary, and it is read off the type of an argument whether it is one
(`sentValue`). `ArgumentApart` says when this is what the description says. Together with the kinds
of results this makes a selector one that is classified as described, and `classified_iff` says of
the selectors of a service when they are.
-/

namespace RemoteBindings

namespace ObjC

variable {r : Registry} {model : Model} {m : Method} {pass : Pass} {p : Param} {ps : List Param}
  {a : Argument} {as : List Argument} {s : Selector} {t : Value} {n type : String}

/-- An argument is sent as the dictionary of an instance exactly if the description says so. -/
def SentAsDescribed (p : Param) (a : Argument) : Prop :=
  a.value = "[" ++ a.name ++ " toDictionary]" ↔ p.type = .text "object" ∧ p.arg = "data"

instance : DecidableRel SentAsDescribed := fun p a =>
  inferInstanceAs (Decidable (a.value = "[" ++ a.name ++ " toDictionary]" ↔
    p.type = .text "object" ∧ p.arg = "data"))

/-- The kinds of a selector, made from a result of the type `t` and the parameters `ps`, are those
of the description. -/
structure Classified (r : Registry) (model : Model) (t : Value) (ps : List Param)
    (s : Selector) : Prop where
  result : KindOf r model t s.returnKind
  arguments : List.Forall₂ SentAsDescribed ps s.arguments

instance (r : Registry) (model : Model) (t : Value) (ps : List Param) (s : Selector) :
    Decidable (Classified r model t ps s) :=
  decidable_of_iff (_ ∧ _) ⟨fun ⟨hr, ha⟩ => ⟨hr, ha⟩, fun h => ⟨h.result, h.arguments⟩⟩

/-- The type of an argument is that of an instance only as described. -/
structure ArgumentApart (r : Registry) (model : Model) (p : Param) : Prop where
  /-- The key for instances in the table is no type of a description. -/
  key : p.type ≠ .text "object data"
  /-- The class of the argument is none that the table gives for its type. -/
  library : argumentRow? p.type p.arg ≠ some (pointer (argumentClass r model.className p))

/-! ## Arguments -/

/-- The text that is sent for a name tells whether it is an instance. -/
theorem sentValue_eq_dictionary_iff {modelType name : String} :
    sentValue type modelType name = "[" ++ name ++ " toDictionary]" ↔ type = modelType := by
  refine ⟨fun h => ?_, fun h => if_pos h⟩
  by_contra hne
  rw [sentValue, if_neg hne] at h
  split at h
  · -- the texts begin with different brackets
    have hchars := congrArg String.toList h
    simp [String.toList_append] at hchars
  · have hlength := congrArg String.length h
    rw [String.length_append, String.length_append, show "[".length = 1 by decide] at hlength
    omega

theorem lookup_eq_modelTypeMark_iff {key : String} :
    argumentTypes.lookup key = some modelTypeMark ↔ key = "object data" := by
  constructor
  · intro h
    have hmem := Entries.mem_of_lookup_eq_some h
    simpa [argumentTypes, modelTypeMark] using hmem
  · rintro rfl
    rfl

/-- A type together with a name is a key of the table only for an instance. -/
theorem lookup_join_eq_none {name : String} (h : ¬ (n = "object" ∧ name = "data")) :
    argumentTypes.lookup (n ++ " " ++ name) = none := by
  have hspace : ∀ e ∈ argumentTypes, ' ' ∈ e.1.toList → e.1 = "object" ++ " " ++ "data" := by
    decide
  rw [Option.eq_none_iff_forall_ne_some]
  intro row hrow
  have hkey : n ++ " " ++ name = "object" ++ " " ++ "data" :=
    hspace _ (Entries.mem_of_lookup_eq_some hrow) (by simp [String.toList_append])
  have hparts : "object".toList ++ ' ' :: "data".toList = n.toList ++ ' ' :: name.toList := by
    simpa [String.toList_append] using congrArg String.toList hkey.symm
  rw [List.append_cons_inj_of_notMem (by decide) (by decide)] at hparts
  exact h ⟨String.toList_inj.mp hparts.1.symm, String.toList_inj.mp hparts.2.2.symm⟩

theorem argumentRow?_eq_modelTypeMark_iff {name : String} :
    argumentRow? t name = some modelTypeMark ↔
      t = .text "object" ∧ name = "data" ∨ t = .text "object data" := by
  have harray : argumentTypes.lookup arrayMarker ≠ some modelTypeMark := by decide
  unfold argumentRow?
  cases t with
  | text n =>
    by_cases hdata : n = "object" ∧ name = "data"
    · obtain ⟨rfl, rfl⟩ := hdata
      exact iff_of_true rfl (.inl ⟨rfl, rfl⟩)
    · simp only [lookup_join_eq_none hdata, Option.none_or, Value.text.injEq, hdata, false_or]
      rw [← lookup_eq_modelTypeMark_iff]
      split
      · rename_i hnone
        have hn : argumentTypes.lookup n = none := by simpa using (Bool.and_eq_true_iff.mp hnone).1
        exact iff_of_false harray (by rw [hn]; nofun)
      · rfl
  | _ =>
    simp only [reduceCtorEq, false_and, or_self, iff_false]
    split
    · exact harray
    · nofun

/-- An argument has the type of an instance by its description, or because its class is one of the
table. -/
theorem value_eq_dictionary_iff (h : StandsFor r model p a) :
    a.value = "[" ++ a.name ++ " toDictionary]" ↔
      (p.type = .text "object" ∧ p.arg = "data" ∨ p.type = .text "object data") ∨
      argumentRow? p.type p.arg = some (pointer (argumentClass r model.className p)) := by
  rw [h.value, sentValue_eq_dictionary_iff, ← argumentRow?_eq_modelTypeMark_iff]
  obtain ⟨row, hrow, htype⟩ := Option.map_eq_some_iff.mp h.type
  rw [hrow, Option.some_inj, Option.some_inj, ← htype]
  split
  · rename_i hmark
    exact iff_of_true rfl (.inl hmark)
  · rename_i hmark
    exact (or_iff_right hmark).symm

theorem pointer_ne_modelTypeMark (cls : String) : pointer cls ≠ modelTypeMark := by
  intro h
  have hp := pointedClass?_pointer cls
  rw [h] at hp
  exact absurd hp (by rw [show pointedClass? modelTypeMark = none by decide]; nofun)

theorem sentAsDescribed_iff (h : StandsFor r model p a) :
    SentAsDescribed p a ↔ ArgumentApart r model p := by
  rw [SentAsDescribed, value_eq_dictionary_iff h]
  constructor
  · intro h
    refine ⟨fun hk => ?_, fun hl => ?_⟩
    · have hd := h.mp (.inl (.inr hk))
      exact absurd (hk.symm.trans hd.1) (by simp)
    · have hmark := argumentRow?_eq_modelTypeMark_iff.mpr (.inl (h.mp (.inr hl)))
      exact pointer_ne_modelTypeMark _ (Option.some.inj (hl.symm.trans hmark))
  · intro h
    refine ⟨?_, fun hd => .inl (.inl hd)⟩
    rintro ((hd | hk) | hl)
    · exact hd
    · exact absurd hk h.key
    · exact absurd hl h.library

theorem forall₂_sentAsDescribed_iff (h : List.Forall₂ (StandsFor r model) ps as) :
    List.Forall₂ SentAsDescribed ps as ↔ ∀ p ∈ ps, ArgumentApart r model p := by
  induction h with
  | nil => exact iff_of_true .nil (List.forall_mem_nil _)
  | cons hp _ ih => rw [List.forall₂_cons, List.forall_mem_cons, sentAsDescribed_iff hp, ih]

/-! ## Selectors -/

theorem classified_iff_of_attempt (hname : model.name ∈ r.names)
    (hclass : model.className = className model.name r.classPrefix)
    (harray : m.returnsArray = false) (h : attempt r model m pass = .ok (.selector s)) :
    Classified r model m.result.type (considered pass m) s ↔
      ResultApart r model m.result.type ∧ ∀ p ∈ considered pass m, ArgumentApart r model p := by
  have hs := selectorFor_of_attempt h
  have htype := hs.returnType
  rw [harray] at htype
  have hresult := kindOf_iff hname hclass htype
  rw [← hs.returnKind] at hresult
  have harguments := forall₂_sentAsDescribed_iff hs.arguments
  exact ⟨fun h => ⟨hresult.mp h.result, harguments.mp h.arguments⟩,
    fun h => ⟨hresult.mpr h.1, harguments.mpr h.2⟩⟩

/-- The table has no class but those of the library. -/
theorem argumentRow?_ne_pointer {type : Value} {name cls : String}
    (hclass : cls ∉ libraryReturnTypes) : argumentRow? type name ≠ some (pointer cls) := by
  intro hrow
  have hpointed : ∀ row ∈ argumentTypes.map Prod.snd, ∀ cls ∈ pointedClass? row,
      cls ∈ libraryReturnTypes := by
    decide
  exact hclass (hpointed _ (mem_argumentTypes_of_argumentRow? hrow) _ (pointedClass?_pointer _))

/-- An argument of a class that is none of the library is an instance only as described. -/
theorem argumentApart_of_notMem (hkey : p.type ≠ .text "object data")
    (hclass : argumentClass r model.className p ∉ libraryReturnTypes) : ArgumentApart r model p where
  key := hkey
  library hrow := absurd hrow (argumentRow?_ne_pointer hclass)

end ObjC

open ObjC

variable {service : Descriptor.Service} {classPrefix : String} {b : Bindings} {e : String × Model}

/-- A model is exposed under its own name, and its class is made of it. -/
theorem own_of_bindService (h : (bindService service classPrefix).toExcept = .ok b)
    (he : e ∈ b.models) :
    e.2.name ∈ b.registry.names ∧ e.2.className = className e.2.name b.registry.classPrefix := by
  obtain ⟨hkey, hclass⟩ := names_of_bindService h he
  rw [← keys_of_bindService h, hkey]
  exact ⟨List.mem_map_of_mem he, hclass⟩

/-- Each selector of a model is made of one of its methods, and its kinds are those of the
description exactly if the texts that they are read off are apart. -/
theorem classified_iff (h : (bindService service classPrefix).toExcept = .ok b)
    (he : e ∈ b.models) :
    (∀ s ∈ e.2.selectors, ∃ m ∈ e.2.methods, ∃ pass,
      attempt b.registry e.2 m pass = .ok (.selector s)) ∧
    ∀ m ∈ e.2.methods, ∀ pass s, attempt b.registry e.2 m pass = .ok (.selector s) →
      (Classified b.registry e.2 m.result.type (considered pass m) s ↔
        ResultApart b.registry e.2 m.result.type ∧
          ∀ p ∈ considered pass m, ArgumentApart b.registry e.2 p) := by
  obtain ⟨hname, hclass⟩ := own_of_bindService h he
  refine ⟨fun s hs => ?_, fun m hm pass s hmade => ?_⟩
  · obtain ⟨m, hm, ho⟩ := List.mem_flatMap.mp (selectors_of_bindService h he ▸ hs)
    obtain ⟨pass, -, hmade⟩ := mem_overloads.mp ho
    exact ⟨m, hm, pass, hmade⟩
  · exact classified_iff_of_attempt hname hclass (returnsArray_of_bindService h he hm) hmade

/-- A class that saves and returns its own instances, and returns those of `Tag`. -/
def rawTagged : Value :=
  rawClass "Note" [(.text "methods", .list [
    .map [(.text "name", .text "save"), (.text "isStatic", .bool true),
      (.text "accepts", .list [.map [(.text "arg", .text "data"), (.text "type", .text "object"),
        (.text "required", .bool true)]]),
      (.text "returns", .list [.map [(.text "type", .text "note")]])],
    .map [(.text "name", .text "tags"), (.text "isStatic", .bool true),
      (.text "returns", .list [.map [(.text "type", .list [.text "Tag"])]])],
    .map [(.text "name", .text "label"), (.text "isStatic", .bool true),
      (.text "returns", .list [.map [(.text "type", .text "tag")]])]])]

theorem classified_iff_note :
    ∃ service, Descriptor.build (.list [rawTagged, rawClass "Tag" []]) = .ok service ∧
      ∃ b, (bindService service "").toExcept = .ok b ∧ ∃ e ∈ b.models,
        e.2.selectors.map Selector.returnKind = [.model, .collection, .foreignModel] ∧
        ∀ s ∈ e.2.selectors, ∃ m ∈ e.2.methods, ∃ pass,
          attempt b.registry e.2 m pass = .ok (.selector s) ∧
          Classified b.registry e.2 m.result.type (considered pass m) s := by
  have h : ∃ service, Descriptor.build (.list [rawTagged, rawClass "Tag" []]) = .ok service ∧
      ∃ b, (bindService service "").toExcept = .ok b ∧ ∃ e ∈ b.models,
        e.2.selectors.map Selector.returnKind = [.model, .collection, .foreignModel] ∧
        b.registry.ClassesApart ∧ ∀ m ∈ e.2.methods, m.result.type ≠ .text arrayMarker ∧
          ∀ p ∈ m.accepts, p.type ≠ .text "object data" ∧
            argumentClass b.registry e.2.className p ∉ libraryReturnTypes := by
    decide +kernel
  obtain ⟨service, hs, b, hb, e, he, hkinds, hclasses, hmethods⟩ := h
  obtain ⟨hname, hclass⟩ := own_of_bindService hb he
  obtain ⟨hmade, hiff⟩ := classified_iff hb he
  refine ⟨service, hs, b, hb, e, he, hkinds, fun s hsel => ?_⟩
  obtain ⟨m, hm, pass, ha⟩ := hmade s hsel
  obtain ⟨ht, hparams⟩ := hmethods m hm
  have happly := (hiff m hm pass s ha).mpr
  refine ⟨m, hm, pass, ha, happly ⟨resultApart_of_classesApart hclasses hname hclass ht, ?_⟩⟩
  intro p hp
  obtain ⟨hkey, hp⟩ := hparams p (List.mem_filter.mp hp).1
  exact argumentApart_of_notMem hkey hp

/-- Another model may have the class `NSArray`, and an argument may state the class of its text. -/
theorem not_classified :
    ∃ service, Descriptor.build (.list [rawClass "n-s-array" [],
        rawClass "Note" [(.text "methods", .list [
          .map [(.text "name", .text "list"), (.text "isStatic", .bool true),
            (.text "returns", .list [.map [(.text "type", .text "n-s-array")]])],
          .map [(.text "name", .text "rename"), (.text "isStatic", .bool true),
            (.text "accepts", .list [.map [(.text "arg", .text "title"),
              (.text "type", .text "string"), (.text "model", .text "NSString"),
              (.text "required", .bool true)]])]])]]) = .ok service ∧
      ∃ b, (bindService service "").toExcept = .ok b ∧ ∃ e ∈ b.models,
        e.2.methods.map (fun m => b.registry.resolveValue? m.result.type) =
          [some "n-s-array", none] ∧
        e.2.selectors.map Selector.returnKind = [.collection, .void] ∧
        e.2.selectors.map (fun s => s.arguments.map Argument.value) =
          [[], ["[title toDictionary]"]] ∧
        ∀ m ∈ e.2.methods, ∃ s ∈ passSelectors b.registry e.2 m .requiredOnly,
          ¬ Classified b.registry e.2 m.result.type (considered .requiredOnly m) s := by
  decide +kernel

end RemoteBindings
