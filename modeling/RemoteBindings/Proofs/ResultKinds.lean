import RemoteBindings.Proofs.Imports
import RemoteBindings.Proofs.OwnClasses

/-!
# Kinds of results

What a callback receives is read off the Objective-C type of the result (`returnKindOf`), when it is
no longer known what led to this type: the own name of the model, the name of another one, or the
table (`returnType?_eq_some_cases`). The kind is that of the description as long as these ways end
at different texts. `ResultApart` says which of them may not meet, and `kindOf_iff` that nothing
else can go wrong. If the classes of a service have names of their own (`Registry.ClassesApart`),
no result is taken for another one (`resultApart_of_classesApart`).
-/

namespace RemoteBindings

/-- The classes have names of their own: a declared name leads to its own class, which is neither
that of another name nor one of the library. -/
structure Registry.ClassesApart (r : Registry) : Prop where
  resolves : ∀ n ∈ r.names, r.resolve? n = some n
  distinct : ∀ n ∈ r.names, ∀ n' ∈ r.names,
    className n r.classPrefix = className n' r.classPrefix → n = n'
  library : ∀ n ∈ r.names, className n r.classPrefix ∉ ObjC.libraryReturnTypes

instance (r : Registry) : Decidable r.ClassesApart :=
  decidable_of_iff (_ ∧ _ ∧ _) ⟨fun ⟨hr, hd, hl⟩ => ⟨hr, hd, hl⟩,
    fun h => ⟨h.resolves, h.distinct, h.library⟩⟩

theorem Value.isText_iff {v : Value} {s : String} : v.isText s = true ↔ v = .text s := by
  cases v <;> simp [Value.isText]

instance (v : Value) (s : String) : Decidable (v = .text s) :=
  decidable_of_iff (v.isText s = true) Value.isText_iff

namespace ObjC

variable {r : Registry} {model : Model} {t : Value} {n type cls : String}

/-- The type that the table gives for a result that names no model. -/
def libraryType? (t : Value) : Option String := (returnKey? t).bind fun key => returnTypes.lookup key

/-- The kind of a result is that of its type in the description. -/
structure KindOf (r : Registry) (model : Model) (t : Value) (kind : ReturnKind) : Prop where
  own : kind = .model ↔ t = .text model.name ∨ r.resolveValue? t = some model.name
  foreign : kind = .foreignModel ↔ ∃ n, r.resolveValue? t = some n ∧ n ≠ model.name
  collection : kind = .collection ↔ isArray t = true ∧ r.resolveValue? t = none

instance (r : Registry) (model : Model) (t : Value) (kind : ReturnKind) :
    Decidable (KindOf r model t kind) :=
  decidable_of_iff (_ ∧ _ ∧ _) ⟨fun ⟨ho, hf, hc⟩ => ⟨ho, hf, hc⟩,
    fun h => ⟨h.own, h.foreign, h.collection⟩⟩

/-- The text that a result becomes is not that of a result of another kind. -/
structure ResultApart (r : Registry) (model : Model) (t : Value) : Prop where
  /-- An instance of the model itself is not taken for a result without a class. -/
  own : t = .text model.name ∨ r.resolveValue? t = some model.name →
    model.className ≠ "void" ∧ model.className ≠ "BOOL"
  /-- The own name leads to no other model. -/
  ownName : t = .text model.name → r.resolveValue? t = some model.name
  /-- Another model has neither the own class nor one of the library. -/
  foreign : ∀ n, r.resolveValue? t = some n → n ≠ model.name →
    className n r.classPrefix ≠ model.className ∧ className n r.classPrefix ∉ libraryReturnTypes
  /-- What the library has a class for is not taken for an instance of the model. -/
  library : r.resolveValue? t = none → libraryType? t = some model.className →
    model.className = "void" ∨ model.className = "BOOL"
  /-- The key for arrays in the table is no type of a description. -/
  marker : t = .text arrayMarker → r.resolveValue? t ≠ none

/-! ## Kinds of types -/

theorem returnKindOf_eq_model_iff :
    returnKindOf type cls = .model ↔ type = cls ∧ cls ≠ "void" ∧ cls ≠ "BOOL" := by
  unfold returnKindOf
  split_ifs <;> simp_all

theorem returnKindOf_eq_collection_iff :
    returnKindOf type cls = .collection ↔ type = "NSArray" ∧ type ≠ cls := by
  unfold returnKindOf
  split_ifs <;> simp_all

/-! ## Types of results -/

theorem mem_libraryReturnTypes_of_libraryType? (h : libraryType? t = some type) :
    type ∈ libraryReturnTypes := by
  obtain ⟨key, -, hl⟩ := Option.bind_eq_some_iff.mp h
  exact mem_libraryReturnTypes_of_lookup hl

theorem lookup_eq_array_iff {name : String} :
    returnTypes.lookup name = some "NSArray" ↔ name = arrayMarker := by
  constructor
  · intro h
    have hmem := Entries.mem_of_lookup_eq_some h
    simpa [returnTypes] using hmem
  · rintro rfl
    rfl

/-- The table gives an array for arrays, and for its own key. -/
theorem libraryType?_eq_array_iff :
    libraryType? t = some "NSArray" ↔ isArray t = true ∨ t = .text arrayMarker := by
  cases t with
  | text name =>
    by_cases hn : name ∈ arrayNames <;>
      simp [libraryType?, returnKey?, isArray, hn, lookup_eq_array_iff]
  | _ => simp [libraryType?, returnKey?, isArray, lookup_eq_array_iff, arrayMarker, voidMarker]

/-- A result has the own class, the class of another model, or the type of the table. -/
theorem returnType?_eq_some_cases
    (h : returnType? r model.name model.className false t = some type) :
    (t = .text model.name ∧ type = model.className) ∨
    (t ≠ .text model.name ∧ ∃ n, r.resolveValue? t = some n ∧ type = className n r.classPrefix) ∨
    (t ≠ .text model.name ∧ r.resolveValue? t = none ∧ libraryType? t = some type) := by
  rw [returnType?, if_neg Bool.false_ne_true] at h
  split at h
  · rename_i hown
    exact .inl ⟨Value.isText_iff.mp hown, (Option.some.inj h).symm⟩
  rename_i hown
  have hne : t ≠ .text model.name := mt Value.isText_iff.mpr hown
  split at h
  · rename_i cls hcls
    obtain ⟨n, hn, rfl⟩ := Option.map_eq_some_iff.mp hcls
    exact .inr (.inl ⟨hne, n, hn, (Option.some.inj h).symm⟩)
  · rename_i hcls
    exact .inr (.inr ⟨hne, Option.map_eq_none_iff.mp hcls, h⟩)

/-! ## One way to a type after the other -/

theorem kindOf_own_iff (hr : r.resolveValue? t = some n)
    (hown : t = .text model.name ∨ r.resolveValue? t = some model.name) :
    KindOf r model t (returnKindOf model.className model.className) ↔ ResultApart r model t := by
  have hmodel : returnKindOf model.className model.className = .model ↔
      model.className ≠ "void" ∧ model.className ≠ "BOOL" := by
    rw [returnKindOf_eq_model_iff, eq_self, true_and]
  have hforeign : returnKindOf model.className model.className ≠ .foreignModel := fun h =>
    (returnKindOf_eq_foreignModel_iff.mp h).2 rfl
  have hcollection : returnKindOf model.className model.className ≠ .collection := fun h =>
    (returnKindOf_eq_collection_iff.mp h).2 rfl
  constructor
  · intro h
    -- the kind is that of the own class, so no other model may be meant
    have hn : n = model.name := by
      by_contra hne
      exact hforeign (h.foreign.mpr ⟨n, hr, hne⟩)
    subst hn
    exact
      { own := fun _ => hmodel.mp (h.own.mpr hown)
        ownName := fun _ => hr
        foreign := fun n hn hne => absurd (Option.some.inj (hn.symm.trans hr)) hne
        library := fun hnone => absurd (hnone.symm.trans hr) nofun
        marker := fun _ hnone => absurd (hnone.symm.trans hr) nofun }
  · intro h
    have hr : r.resolveValue? t = some model.name := hown.elim h.ownName id
    exact
      { own := iff_of_true (hmodel.mpr (h.own hown)) hown
        foreign := iff_of_false hforeign fun ⟨n, hn, hne⟩ =>
          hne (Option.some.inj (hn.symm.trans hr))
        collection := iff_of_false hcollection fun ⟨_, hnone⟩ =>
          absurd (hnone.symm.trans hr) nofun }

theorem kindOf_foreign_iff (ht : t ≠ .text model.name) (hr : r.resolveValue? t = some n)
    (hne : n ≠ model.name) :
    KindOf r model t (returnKindOf (className n r.classPrefix) model.className) ↔
      ResultApart r model t := by
  have hown : ¬ (t = .text model.name ∨ r.resolveValue? t = some model.name) := by
    rintro (h | h)
    · exact ht h
    · exact hne (Option.some.inj (hr.symm.trans h))
  constructor
  · intro h
    have hkind := returnKindOf_eq_foreignModel_iff.mp (h.foreign.mpr ⟨n, hr, hne⟩)
    exact
      { own := fun h => absurd h hown
        ownName := fun h => absurd h ht
        foreign := fun n' hn' _ => by
          rw [← Option.some.inj (hr.symm.trans hn')]
          exact hkind.symm
        library := fun hnone => absurd (hnone.symm.trans hr) nofun
        marker := fun _ hnone => absurd (hnone.symm.trans hr) nofun }
  · intro h
    have hkind := returnKindOf_eq_foreignModel_iff.mpr (h.foreign n hr hne).symm
    rw [hkind]
    exact
      { own := iff_of_false (by decide) hown
        foreign := iff_of_true rfl ⟨n, hr, hne⟩
        collection := iff_of_false (by decide) fun ⟨_, hnone⟩ =>
          absurd (hnone.symm.trans hr) nofun }

theorem kindOf_library_iff (ht : t ≠ .text model.name) (hr : r.resolveValue? t = none)
    (hl : libraryType? t = some type) :
    KindOf r model t (returnKindOf type model.className) ↔ ResultApart r model t := by
  have hnames (n : String) : r.resolveValue? t ≠ some n := by
    rw [hr]
    nofun
  have hown : ¬ (t = .text model.name ∨ r.resolveValue? t = some model.name) := by
    rintro (h | h)
    · exact ht h
    · exact hnames _ h
  have hforeign : returnKindOf type model.className ≠ .foreignModel := fun h =>
    (returnKindOf_eq_foreignModel_iff.mp h).1 (mem_libraryReturnTypes_of_libraryType? hl)
  have harray : type = "NSArray" ↔ isArray t = true ∨ t = .text arrayMarker := by
    rw [← libraryType?_eq_array_iff, hl, Option.some_inj]
  have hmodel : returnKindOf type model.className ≠ .model ↔
      (type = model.className → model.className = "void" ∨ model.className = "BOOL") := by
    rw [Ne, returnKindOf_eq_model_iff]
    tauto
  -- an array is neither of the two, so it has not the own class
  have hne (h : type = model.className → model.className = "void" ∨ model.className = "BOOL")
      (htype : type = "NSArray") : type ≠ model.className := by
    intro hc
    rw [← hc, htype] at h
    exact absurd (h rfl) (by decide)
  constructor
  · intro h
    have hapart := hmodel.mp (mt h.own.mp hown)
    exact
      { own := fun h => absurd h hown
        ownName := fun h => absurd h ht
        foreign := fun n hn => absurd hn (hnames n)
        library := fun _ hc => hapart (Option.some.inj (hl.symm.trans hc))
        marker := fun hm _ => by
          have htype := harray.mpr (.inr hm)
          have hkind := h.collection.mp
            (returnKindOf_eq_collection_iff.mpr ⟨htype, hne hapart htype⟩)
          exact absurd (hm ▸ hkind.1) (by decide) }
  · intro h
    have hapart : type = model.className → _ := fun hc => h.library hr (hc ▸ hl)
    refine
      { own := iff_of_false (hmodel.mpr hapart) hown
        foreign := iff_of_false hforeign fun ⟨n, hn, _⟩ => hnames n hn
        collection := ?_ }
    rw [returnKindOf_eq_collection_iff, and_iff_left hr]
    constructor
    · rintro ⟨htype, -⟩
      exact (harray.mp htype).resolve_right fun hm => h.marker hm hr
    · intro ha
      have htype := harray.mpr (.inl ha)
      exact ⟨htype, hne hapart htype⟩

/-- The kind of a result is that of its description exactly if its text is not that of a result of
another kind. -/
theorem kindOf_iff (hname : model.name ∈ r.names)
    (hclass : model.className = className model.name r.classPrefix)
    (h : returnType? r model.name model.className false t = some type) :
    KindOf r model t (returnKindOf type model.className) ↔ ResultApart r model t := by
  rcases returnType?_eq_some_cases h with ⟨rfl, rfl⟩ | ⟨ht, n, hr, rfl⟩ | ⟨ht, hr, hl⟩
  · obtain ⟨n, -, hr, -⟩ := Registry.exists_resolve?_of_mem hname
    exact kindOf_own_iff hr (.inl rfl)
  · by_cases hn : n = model.name
    · subst hn
      rw [← hclass]
      exact kindOf_own_iff hr (.inr hr)
    · exact kindOf_foreign_iff ht hr hn
  · exact kindOf_library_iff ht hr hl

/-- No result is taken for another one if the classes of a service have names of their own. -/
theorem resultApart_of_classesApart (h : r.ClassesApart) (hname : model.name ∈ r.names)
    (hclass : model.className = className model.name r.classPrefix) (ht : t ≠ .text arrayMarker) :
    ResultApart r model t := by
  have hlibrary : model.className ∉ libraryReturnTypes := hclass ▸ h.library model.name hname
  exact
    { own := fun _ => ⟨fun hc => hlibrary (hc ▸ by decide), fun hc => hlibrary (hc ▸ by decide)⟩
      ownName := by
        rintro rfl
        exact h.resolves model.name hname
      foreign := fun n hn hne => by
        have hmem : n ∈ r.names := Registry.mem_names_of_resolveValue? hn
        refine ⟨fun hc => ?_, h.library n hmem⟩
        exact hne (h.distinct n hmem model.name hname (hc.trans hclass))
      library := fun _ hl => absurd (mem_libraryReturnTypes_of_libraryType? hl) hlibrary
      marker := fun hm => absurd hm ht }

end ObjC

end RemoteBindings
