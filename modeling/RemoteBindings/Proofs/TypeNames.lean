import RemoteBindings.Proofs.Classification

/-!
# Texts in the place of a type

A text has a counterpart where the table of its place has it as a key, and arrays by one of their
names. Not every key is the name of a type: arrays, no result at all and an object argument named
`data` have keys of their own, and a text that spells one of them is mapped as well
(`isSome_propertyType?_iff`, `isSome_argumentType?_iff`, `isSome_returnType?_iff`). `SpellsNoKey`
leaves out these texts, three of them for a model with a class of its own (`spellsNoKey_of_notMem`),
and `mapsNamesOnly_iff` says that all others have a counterpart only as the name of a type; the
fault of a text without one names it as it is (`faults_of_mapsNamesOnly`).
-/

namespace RemoteBindings.ObjC

variable {r : Registry} {model : Model} {modelName modelClass name modelType cls s : String}

def propertyNames : List String :=
  ["String", "Number", "Boolean", "ObjectID", "Date", "object", "Object", "array", "Array"]

def argumentNames : List String :=
  ["object", "Object", "any", "Any", "boolean", "Boolean", "string", "String", "number", "Number",
   "array", "Array"]

/-- Names of results that are no models. -/
def resultNames : List String :=
  ["object", "Object", "number", "Number", "string", "String", "boolean", "Boolean", "array",
   "Array"]

/-- The key of an object argument named `data`. -/
def instanceKey : String := "object data"

/-- A text has a counterpart only as the name of a type, in each place where a type may stand. -/
structure MapsNamesOnly (r : Registry) (modelName modelClass name modelType s : String) :
    Prop where
  property : (propertyType? (.text s)).isSome → s ∈ propertyNames
  argument : (argumentType? (.text s) name modelType).isSome → s ∈ argumentNames
  /-- An instance of a model is described as an object named `data`. -/
  ofModel : argumentType? (.text s) name modelType = some modelType → s = "object" ∧ name = "data"
  result : (returnType? r modelName modelClass false (.text s)).isSome →
    s = modelName ∨ (r.resolve? s).isSome ∨ s ∈ resultNames

/-- A text is no key of the tables but the name of a type. -/
structure SpellsNoKey (r : Registry) (modelName name modelType s : String) : Prop where
  array : s ≠ arrayMarker
  ofModel : s ≠ instanceKey
  void : s = voidMarker → s = modelName ∨ (r.resolve? s).isSome
  /-- The type of the model is none that the table gives for the text. -/
  library : argumentRow? (.text s) name = some modelType → s = "object" ∧ name = "data"

instance : Decidable (MapsNamesOnly r modelName modelClass name modelType s) :=
  decidable_of_iff (_ ∧ _ ∧ _ ∧ _) ⟨fun ⟨hp, ha, hm, hr⟩ => ⟨hp, ha, hm, hr⟩,
    fun h => ⟨h.property, h.argument, h.ofModel, h.result⟩⟩

/-! ## Keys of the tables -/

theorem isSome_lookup_iff {table : List (String × String)} {key : String} :
    (table.lookup key).isSome ↔ key ∈ table.map Prod.fst := by
  induction table with
  | nil => simp
  | cons e table ih =>
    obtain ⟨k, v⟩ := e
    rw [List.lookup_cons, List.map_cons, List.mem_cons, ← ih]
    by_cases h : key = k
    · simp [h]
    · simp [h, beq_eq_false_iff_ne.mpr h]

theorem propertyType?_text :
    propertyType? (.text s) =
      propertyTypes.lookup (if s ∈ arrayNames then arrayMarker else s) := by
  by_cases ha : s ∈ arrayNames <;> simp [propertyType?, propertyKey?, isArray, ha]

theorem isSome_propertyType?_iff :
    (propertyType? (.text s)).isSome ↔ s ∈ propertyNames ∨ s = arrayMarker := by
  have hkeys : ∀ key ∈ propertyTypes.map Prod.fst, key ∈ propertyNames ∨ key = arrayMarker := by
    decide
  have hnames : ∀ n ∈ propertyNames, n ∉ arrayNames → n ∈ propertyTypes.map Prod.fst := by decide
  rw [propertyType?_text, isSome_lookup_iff]
  split
  · rename_i ha
    exact iff_of_true (by decide) (.inl ((by decide : ∀ n ∈ arrayNames, n ∈ propertyNames) s ha))
  · rename_i ha
    refine ⟨hkeys s, ?_⟩
    rintro (hn | rfl)
    · exact hnames s hn ha
    · decide

/-- Of the keys that are made of a type and a name only that of an instance is in the table. -/
theorem argumentRow?_text :
    argumentRow? (.text s) name =
      if s = "object" ∧ name = "data" then some modelTypeMark
      else argumentTypes.lookup (if s ∈ arrayNames then arrayMarker else s) := by
  by_cases hdata : s = "object" ∧ name = "data"
  · rw [if_pos hdata]
    exact argumentRow?_eq_modelTypeMark_iff.mpr (.inl ⟨congrArg _ hdata.1, hdata.2⟩)
  · have hnone : ∀ n ∈ arrayNames, argumentTypes.lookup n = none := by decide
    rw [if_neg hdata, argumentRow?]
    simp only [lookup_join_eq_none hdata, Option.none_or]
    by_cases ha : s ∈ arrayNames
    · simp [isArray, ha, hnone s ha]
    · simp [isArray, ha]

theorem isSome_argumentType?_iff :
    (argumentType? (.text s) name modelType).isSome ↔
      s ∈ argumentNames ∨ s = arrayMarker ∨ s = instanceKey := by
  have hkeys : ∀ key ∈ argumentTypes.map Prod.fst,
      key ∈ argumentNames ∨ key = arrayMarker ∨ key = instanceKey := by
    decide
  have hnames : ∀ n ∈ argumentNames, n ∉ arrayNames → n ∈ argumentTypes.map Prod.fst := by decide
  rw [argumentType?, Option.isSome_map, argumentRow?_text]
  split
  · rename_i hdata
    exact iff_of_true rfl (.inl (hdata.1 ▸ by decide))
  rw [isSome_lookup_iff]
  split
  · rename_i ha
    exact iff_of_true (by decide) (.inl ((by decide : ∀ n ∈ arrayNames, n ∈ argumentNames) s ha))
  · rename_i ha
    refine ⟨hkeys s, ?_⟩
    rintro (hn | rfl | rfl)
    · exact hnames s hn ha
    · decide
    · decide

/-- The type of the model comes of an instance, or the table has it for the text. -/
theorem argumentType?_eq_modelType_iff :
    argumentType? (.text s) name modelType = some modelType ↔
      (s = "object" ∧ name = "data" ∨ s = instanceKey) ∨
        argumentRow? (.text s) name = some modelType := by
  have hmark : argumentRow? (.text s) name = some modelTypeMark ↔
      s = "object" ∧ name = "data" ∨ s = instanceKey := by
    rw [argumentRow?_eq_modelTypeMark_iff, Value.text.injEq, Value.text.injEq]
    rfl
  rw [← hmark, argumentType?]
  cases argumentRow? (.text s) name with
  | none => simp
  | some row => by_cases hrow : row = modelTypeMark <;> simp [hrow]

theorem isSome_returnType?_iff :
    (returnType? r modelName modelClass false (.text s)).isSome ↔
      s = modelName ∨ (r.resolve? s).isSome ∨ s ∈ resultNames ∨ s = arrayMarker ∨
        s = voidMarker := by
  have hkeys : ∀ key ∈ returnTypes.map Prod.fst,
      key ∈ resultNames ∨ key = arrayMarker ∨ key = voidMarker := by
    decide
  have hnames : ∀ n ∈ resultNames, n ∉ arrayNames → n ∈ returnTypes.map Prod.fst := by decide
  rw [returnType?, if_neg Bool.false_ne_true]
  split
  · rename_i hown
    exact iff_of_true rfl (.inl (Value.text.inj (Value.isText_iff.mp hown)))
  rename_i hown
  have hown : s ≠ modelName := fun h => hown (Value.isText_iff.mpr (congrArg _ h))
  have hclass : r.classOfValue? (.text s) = (r.resolve? s).map (className · r.classPrefix) := rfl
  rw [hclass, or_iff_right hown]
  cases r.resolve? s with
  | some n => exact iff_of_true rfl (.inl rfl)
  | none =>
    simp only [Option.map_none, Option.isSome_none, Bool.false_eq_true, false_or, returnKey?,
      Option.bind_some, isSome_lookup_iff]
    split
    · rename_i ha
      have ha : s ∈ arrayNames := List.contains_iff_mem.mp ha
      exact iff_of_true (by decide) (.inl ((by decide : ∀ n ∈ arrayNames, n ∈ resultNames) s ha))
    · rename_i ha
      have ha : s ∉ arrayNames := mt List.contains_iff_mem.mpr ha
      refine ⟨hkeys s, ?_⟩
      rintro (hn | rfl | rfl)
      · exact hnames s hn ha
      · decide
      · decide

/-! ## Names of types -/

/-- A text has counterparts only as the name of a type exactly if it spells no other key of the
tables. -/
theorem mapsNamesOnly_iff :
    MapsNamesOnly r modelName modelClass name modelType s ↔
      SpellsNoKey r modelName name modelType s := by
  constructor
  · intro h
    refine
      { array := ?_
        ofModel := ?_
        void := ?_
        library := fun hrow => h.ofModel (argumentType?_eq_modelType_iff.mpr (.inr hrow)) }
    · rintro rfl
      exact absurd (h.property (isSome_propertyType?_iff.mpr (.inr rfl))) (by decide)
    · rintro rfl
      exact absurd (h.argument (isSome_argumentType?_iff.mpr (.inr (.inr rfl)))) (by decide)
    · rintro rfl
      have hs := h.result (isSome_returnType?_iff.mpr (.inr (.inr (.inr (.inr rfl)))))
      exact hs.imp_right fun hs => hs.resolve_right (by decide)
  · intro h
    exact
      { property := fun hs => (isSome_propertyType?_iff.mp hs).resolve_right h.array
        argument := fun hs => (isSome_argumentType?_iff.mp hs).resolve_right fun hk =>
          hk.elim h.array h.ofModel
        ofModel := fun hs => (argumentType?_eq_modelType_iff.mp hs).elim
          (fun hk => hk.resolve_right h.ofModel) h.library
        result := fun hs => by
          rcases isSome_returnType?_iff.mp hs with hown | hr | hn | ha | hv
          · exact .inl hown
          · exact .inr (.inl hr)
          · exact .inr (.inr hn)
          · exact absurd ha h.array
          · exact (h.void hv).imp_right .inl }

/-- Each of the keys that are no names is mapped: one for a property, one for an instance in an
argument of any name, and one for a result. -/
theorem not_mapsNamesOnly :
    propertyType? (.text arrayMarker) = some "(nonatomic) NSArray *" ∧
    argumentType? (.text instanceKey) "filter" "Note *" = some "Note *" ∧
    returnType? ⟨["Note"], ""⟩ "Note" "Note" false (.text voidMarker) = some "void" ∧
    ∀ s ∈ [arrayMarker, instanceKey, voidMarker],
      ¬ MapsNamesOnly ⟨["Note"], ""⟩ "Note" "Note" "filter" "Note *" s := by
  decide

/-- With a model type of a class that is none of the library, three texts spell a key. -/
theorem spellsNoKey_of_notMem (hs : s ∉ [arrayMarker, instanceKey, voidMarker])
    (hclass : cls ∉ libraryReturnTypes) : SpellsNoKey r modelName name (pointer cls) s := by
  simp only [List.mem_cons, List.not_mem_nil, or_false, not_or] at hs
  exact
    { array := hs.1
      ofModel := hs.2.1
      void := fun hv => absurd hv hs.2.2
      library := fun hrow => absurd hrow (argumentRow?_ne_pointer hclass) }

/-- A text without a counterpart is a fault that names it. -/
theorem faults_of_mapsNamesOnly {m : Method} {p : Param}
    (h : MapsNamesOnly r model.name model.className p.arg
      (pointer (argumentClass r model.className p)) s) :
    (s ∉ propertyNames →
      propertyTypeOf model.name name (.text s) =
        .error (.unsupportedProperty s name model.name)) ∧
    (p.type = .text s → s ∉ argumentNames →
      argumentOf r model m p = .error (.unsupportedArgument s p.arg m.name model.name)) ∧
    (m.returnsArray = false → m.result.type = .text s → s ≠ model.name → r.resolve? s = none →
      s ∉ resultNames →
      returnTypeOf r model m = .error (.unsupportedReturn s m.name model.name)) := by
  refine ⟨fun hs => ?_, fun ht hs => ?_, fun ha ht hown hr hs => ?_⟩
  · have hnone := Option.not_isSome_iff_eq_none.mp (mt h.property hs)
    rw [propertyTypeOf, hnone]
    rfl
  · have hnone := Option.not_isSome_iff_eq_none.mp (mt h.argument hs)
    rw [argumentOf, ht]
    simp only [hnone]
    rfl
  · have hnone : returnType? r model.name model.className false (.text s) = none := by
      refine Option.not_isSome_iff_eq_none.mp (mt h.result ?_)
      rintro (h | h | h)
      · exact hown h
      · rw [hr] at h
        cases h
      · exact hs h
    rw [returnTypeOf, ha, ht, hnone]
    rfl

end RemoteBindings.ObjC
