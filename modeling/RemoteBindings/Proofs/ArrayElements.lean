import RemoteBindings.Proofs.Classification

/-!
# Instances in a result

A callback is given instances of the model's own class in two ways: the value that arrives is made
one (`convertsValue_iff`), or every element of it is (`convertsElements_iff`). For a value the class
decides, whatever led to it; for the elements it is the text of their type. So a name that stands
for the own class as a result does so as the type of elements only if it is the name of the model
itself (`arraysAgree_iff`).
-/

namespace RemoteBindings

namespace Value

/-- Whether a value is a list of nothing but a given text. -/
def isListOf (s : String) : Value → Bool
  | list [text t] => t == s
  | _ => false

theorem isListOf_iff {v : Value} {s : String} : v.isListOf s = true ↔ v = list [text s] := by
  unfold isListOf
  split
  · simp
  · rename_i hv
    exact iff_of_false Bool.false_ne_true fun h => hv s h

instance (v : Value) (s : String) : Decidable (v = list [text s]) :=
  decidable_of_iff (v.isListOf s = true) isListOf_iff

end Value

namespace ObjC

variable {r : Registry} {model : Model} {m : Method} {pass : Pass} {s : Selector} {t : String}

/-- The value that arrives is made an instance of the model. -/
def ConvertsValue (model : Model) (s : Selector) : Prop :=
  successLines model.name s =
    ["success((" ++ model.className ++ " *)[self modelWithDictionary:value]);"]

/-- Every element of the value that arrives is made an instance of the model. -/
def ConvertsElements (model : Model) (s : Selector) : Prop :=
  successLines model.name s =
    ["NSMutableArray *models = [NSMutableArray array];",
     "[value enumerateObjectsUsingBlock:^(id obj, NSUInteger idx, BOOL *stop) \x7b",
     "    [models addObject:[self modelWithDictionary:obj]];",
     "\x7d];",
     "success(models);"]

instance : DecidableRel ConvertsValue := fun model s =>
  inferInstanceAs (Decidable (successLines model.name s = _))

instance : DecidableRel ConvertsElements := fun model s =>
  inferInstanceAs (Decidable (successLines model.name s = _))

/-- A result of the type has the class of the model, and the class is none that is told apart
before. -/
structure HasOwnClass (r : Registry) (model : Model) (t : String) : Prop where
  named : t = model.name ∨ (∃ n, r.resolve? t = some n ∧
      className n r.classPrefix = model.className) ∨
    r.resolve? t = none ∧ libraryType? (.text t) = some model.className
  class_ne_void : model.className ≠ "void"
  class_ne_bool : model.className ≠ "BOOL"

/-- A method that gets selectors has a result of the type. -/
def Returns (r : Registry) (model : Model) (t : Value) : Prop :=
  ∃ m ∈ model.methods, m.result.type = t ∧ overloads r model m ≠ []

/-- Where a result of the type is an instance of the model, so is every element of an array of
it. -/
def ArraysAgree (r : Registry) (model : Model) (t : String) : Prop :=
  ∀ m ∈ model.methods, m.result.type = .text t →
    ∀ m' ∈ model.methods, m'.result.type = .list [.text t] →
      ∀ s ∈ overloads r model m, ∀ s' ∈ overloads r model m',
        ConvertsValue model s → ConvertsElements model s'

instance : Decidable (Returns r model (.text t)) :=
  inferInstanceAs (Decidable (∃ m ∈ model.methods, _))

instance : Decidable (Returns r model (.list [.text t])) :=
  inferInstanceAs (Decidable (∃ m ∈ model.methods, _))

instance : Decidable (ArraysAgree r model t) :=
  inferInstanceAs (Decidable (∀ m ∈ model.methods, _))

/-! ## Lines -/

theorem foreignLine_ne_ownLine {type cls : String} :
    "success((" ++ type ++ " *)[[" ++ type ++
      "Repository repository] modelWithDictionary:value]);" ≠
    "success((" ++ cls ++ " *)[self modelWithDictionary:value]);" := by
  intro h
  -- both lines end in the same call, and what stands before it ends differently
  have hforeign : "Repository repository] modelWithDictionary:value]);" =
      "Repository repository]" ++ " modelWithDictionary:value]);" := by
    decide
  have hown : " *)[self modelWithDictionary:value]);" =
      " *)[self" ++ " modelWithDictionary:value]);" := by
    decide
  rw [hforeign, hown, ← String.append_assoc, ← String.append_assoc, String.append_left_inj] at h
  have hlast := congrArg (fun line => line.toList.reverse.head?) h
  simp [String.toList_append] at hlast

/-- The value is converted exactly if the kind of the result is that of the own class. -/
theorem convertsValue_iff (hk : s.returnKind = returnKindOf s.returnType model.className) :
    ConvertsValue model s ↔ s.returnKind = .model := by
  have hother {line : String} (hl : line.toList[8]? ≠ some '(') :
      [line] ≠ ["success((" ++ model.className ++ " *)[self modelWithDictionary:value]);"] := by
    intro h
    rw [(List.cons.inj h).1] at hl
    simp [String.toList_append] at hl
  cases hs : s.returnKind <;> simp only [ConvertsValue, successLines, hs]
  case model =>
    have htype := (returnKindOf_eq_model_iff.mp (hk.symm.trans hs)).1
    exact iff_of_true (by rw [htype]) trivial
  case foreignModel =>
    exact iff_of_false (fun h => foreignLine_ne_ownLine (List.cons.inj h).1) nofun
  case void => exact iff_of_false (hother (by decide)) nofun
  case primitive => exact iff_of_false (hother (by decide)) nofun
  case object => exact iff_of_false (hother (by decide)) nofun
  case collection =>
    refine iff_of_false ?_ nofun
    split
    · exact fun h => absurd (congrArg List.length h) (by simp)
    · exact hother (by decide)

/-- Elements are converted in a collection whose element type is the name of the model. -/
theorem convertsElements_iff :
    ConvertsElements model s ↔ s.returnKind = .collection ∧ s.elementType = model.name := by
  have hlength {line : String} {lines : List String} (hl : lines.length ≠ 1) : [line] ≠ lines :=
    fun h => hl (congrArg List.length h).symm
  cases hs : s.returnKind <;> simp only [ConvertsElements, successLines, hs]
  case collection =>
    split
    · rename_i he
      exact iff_of_true rfl ⟨trivial, he⟩
    · rename_i he
      exact iff_of_false (hlength (by simp)) fun h => he h.2
  all_goals exact iff_of_false (hlength (by simp)) fun h => nomatch h.1

/-! ## Results -/

theorem returnKindOf_eq_model_iff_hasOwnClass {type : String}
    (h : returnType? r model.name model.className false (.text t) = some type) :
    returnKindOf type model.className = .model ↔ HasOwnClass r model t := by
  have hr : r.resolveValue? (.text t) = r.resolve? t := rfl
  rw [returnKindOf_eq_model_iff]
  constructor
  · rintro ⟨rfl, hvoid, hbool⟩
    refine ⟨?_, hvoid, hbool⟩
    rcases returnType?_eq_some_cases h with ⟨ht, -⟩ | ⟨-, n, hn, hc⟩ | ⟨-, hn, hl⟩
    · exact .inl (Value.text.inj ht)
    · exact .inr (.inl ⟨n, hn, hc.symm⟩)
    · exact .inr (.inr ⟨hn, hl⟩)
  · rintro ⟨hnamed, hvoid, hbool⟩
    refine ⟨?_, hvoid, hbool⟩
    rcases returnType?_eq_some_cases h with ⟨-, hc⟩ | ⟨ht, n, hn, rfl⟩ | ⟨ht, hn, hl⟩
    · exact hc
    · rcases hnamed with hown | ⟨n', hn', hc⟩ | ⟨hnone, -⟩
      · exact absurd (congrArg _ hown) ht
      · rw [← hc, Option.some.inj (hn.symm.trans hn')]
      · exact absurd (hn.symm.trans hnone) nofun
    · rcases hnamed with hown | ⟨n', hn', -⟩ | ⟨-, hc⟩
      · exact absurd (congrArg _ hown) ht
      · exact absurd (hn.symm.trans hn') nofun
      · exact Option.some.inj (hl.symm.trans hc)

theorem convertsValue_iff_hasOwnClass (ha : m.returnsArray = false) (ht : m.result.type = .text t)
    (h : attempt r model m pass = .ok (.selector s)) :
    ConvertsValue model s ↔ HasOwnClass r model t := by
  have hs := selectorFor_of_attempt h
  have htype := hs.returnType
  rw [ha, ht] at htype
  rw [convertsValue_iff hs.returnKind, hs.returnKind, returnKindOf_eq_model_iff_hasOwnClass htype]

theorem convertsElements_iff_name (ha : m.returnsArray = false)
    (ht : m.result.type = .list [.text t]) (h : attempt r model m pass = .ok (.selector s)) :
    ConvertsElements model s ↔ t = model.name ∧ model.className ≠ "NSArray" := by
  have hs := selectorFor_of_attempt h
  have htype := hs.returnType
  rw [ha, ht] at htype
  have htype : "NSArray" = s.returnType := Option.some.inj htype
  have helement : s.elementType = t := by
    rw [hs.elementType, elementTypeOf, ht]
  rw [convertsElements_iff, hs.returnKind, returnKindOf_eq_collection_iff, helement, ← htype,
    and_iff_right rfl, and_comm, ne_comm]

end ObjC

open ObjC

variable {service : Descriptor.Service} {classPrefix : String} {b : Bindings} {e : String × Model}

/-- An array of a type is given the instances that a result of the type is given, unless the type is
another name that has the class of the model, or this is the class of arrays. -/
theorem arraysAgree_iff (h : (bindService service classPrefix).toExcept = .ok b)
    (he : e ∈ b.models) {t : String} :
    ArraysAgree b.registry e.2 t ↔
      (Returns b.registry e.2 (.text t) → Returns b.registry e.2 (.list [.text t]) →
        HasOwnClass b.registry e.2 t → t = e.2.name ∧ e.2.className ≠ "NSArray") := by
  have hvalue {m s} (hm : m ∈ e.2.methods) (ht : m.result.type = .text t)
      (hs : s ∈ overloads b.registry e.2 m) :
      ConvertsValue e.2 s ↔ HasOwnClass b.registry e.2 t := by
    obtain ⟨pass, -, hmade⟩ := mem_overloads.mp hs
    exact convertsValue_iff_hasOwnClass (returnsArray_of_bindService h he hm) ht hmade
  have helements {m s} (hm : m ∈ e.2.methods) (ht : m.result.type = .list [.text t])
      (hs : s ∈ overloads b.registry e.2 m) :
      ConvertsElements e.2 s ↔ t = e.2.name ∧ e.2.className ≠ "NSArray" := by
    obtain ⟨pass, -, hmade⟩ := mem_overloads.mp hs
    exact convertsElements_iff_name (returnsArray_of_bindService h he hm) ht hmade
  constructor
  · rintro hagree ⟨m, hm, ht, hne⟩ ⟨m', hm', ht', hne'⟩ hown
    obtain ⟨s, hs⟩ := List.exists_mem_of_ne_nil _ hne
    obtain ⟨s', hs'⟩ := List.exists_mem_of_ne_nil _ hne'
    rw [← helements hm' ht' hs']
    exact hagree m hm ht m' hm' ht' s hs s' hs' ((hvalue hm ht hs).mpr hown)
  · intro hname m hm ht m' hm' ht' s hs s' hs' hv
    rw [helements hm' ht' hs']
    exact hname ⟨m, hm, ht, List.ne_nil_of_mem hs⟩ ⟨m', hm', ht', List.ne_nil_of_mem hs'⟩
      ((hvalue hm ht hs).mp hv)

/-- A class with a method that returns the type `t`, and one that returns an array of it. -/
def rawCopied (name t : String) : Value :=
  rawClass name [(.text "methods", .list [
    .map [(.text "name", .text "copy"), (.text "returns", .list [.map [(.text "type", .text t)]])],
    .map [(.text "name", .text "history"),
      (.text "returns", .list [.map [(.text "type", .list [.text t])]])]])]

theorem arraysAgree_iff_note :
    ∃ service, Descriptor.build (.list [rawCopied "Note" "Note"]) = .ok service ∧
      ∃ b, (bindService service "").toExcept = .ok b ∧ ∃ e ∈ b.models,
        Returns b.registry e.2 (.text "Note") ∧ Returns b.registry e.2 (.list [.text "Note"]) ∧
        HasOwnClass b.registry e.2 "Note" ∧ ArraysAgree b.registry e.2 "Note" := by
  have h : ∃ service, Descriptor.build (.list [rawCopied "Note" "Note"]) = .ok service ∧
      ∃ b, (bindService service "").toExcept = .ok b ∧ ∃ e ∈ b.models,
        Returns b.registry e.2 (.text "Note") ∧ Returns b.registry e.2 (.list [.text "Note"]) ∧
        "Note" = e.2.name ∧ e.2.className = "Note" := by
    decide +kernel
  obtain ⟨service, hs, b, hb, e, he, hvalue, harray, hname, hclass⟩ := h
  have hown : HasOwnClass b.registry e.2 "Note" :=
    ⟨.inl hname, hclass ▸ by decide, hclass ▸ by decide⟩
  exact ⟨service, hs, b, hb, e, he, hvalue, harray, hown,
    (arraysAgree_iff hb he).mpr fun _ _ _ => ⟨hname, hclass ▸ by decide⟩⟩

/-- The name of a model in another case has its class, but an array of it is passed on as it is; and
so is one of instances whose class is that of arrays. -/
theorem not_arraysAgree :
    (∃ service, Descriptor.build (.list [rawCopied "Note" "note"]) = .ok service ∧
      ∃ b, (bindService service "").toExcept = .ok b ∧
        ∃ e ∈ b.models, ¬ ArraysAgree b.registry e.2 "note") ∧
    ∃ service, Descriptor.build (.list [rawCopied "n-s-array" "n-s-array"]) = .ok service ∧
      ∃ b, (bindService service "").toExcept = .ok b ∧
        ∃ e ∈ b.models, ¬ ArraysAgree b.registry e.2 "n-s-array" := by
  decide +kernel

end RemoteBindings
