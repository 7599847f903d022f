import RemoteBindings.Proofs.InstanceRoutes
import RemoteBindings.Proofs.Synthesis
import RemoteBindings.Proofs.ValueNames

/-!
# Types of properties by constructor and by name

What stands in the place of a property is a type, or a definition that states one (`statedType`).
With names in the place of constructors it states the type by its name, unless it is a nested object
that was taken for a definition because its fields have constructors (`statedType_named`). A type
and its name have the same declaration, except for the constructor of arrays and for parts whose own
name is a function: `declaredType_named_iff` says which values read alike (`ReadsAlike`).
-/

namespace RemoteBindings

open Value (named)

namespace Value

variable {name : String} {f : Value → Value} {es : List (Value × Value)}

/-- Other values under the same keys. -/
theorem field?_map (g : Value → Value → Value) :
    field? name (es.map fun e => (e.1, g e.1 e.2)) = (field? name es).map (g (text name)) := by
  induction es with
  | nil => rfl
  | cons e es ih =>
    obtain ⟨k, v⟩ := e
    rw [List.map_cons]
    by_cases hk : k = text name
    · subst hk
      simp [field?]
    · rw [field?_cons_of_ne hk, field?_cons_of_ne hk, ih]

theorem field?_mapValues : field? name (Entries.mapValues f es) = (field? name es).map f :=
  field?_map fun _ => f

end Value

namespace Descriptor

variable {v w : Value} {es : Mapping} {f : Value → Value} {fields : List Field} {p : Property}

/-! ## Fields -/

theorem locate?_map {field : Field} (g : Value → Value → Value) :
    field.locate? (es.map fun e => (e.1, g e.1 e.2)) =
      (field.locate? es).map fun found => (found.1, g (.text found.1) found.2) := by
  unfold Field.locate?
  rw [Value.field?_map, Value.field?_map]
  cases Value.field? field.preferred es with
  | some v => rfl
  | none => cases Value.field? field.name es <;> rfl

/-- Which fields are given does not depend on their values. -/
theorem claims_map {name : String} (g : Value → Value → Value) :
    Field.claims (es.map fun e => (e.1, g e.1 e.2)) name = Field.claims es name := by
  funext field
  unfold Field.claims
  rw [locate?_map]
  cases field.locate? es <;> rfl

theorem claims_mapValues {name : String} :
    Field.claims (Entries.mapValues f es) name = Field.claims es name :=
  claims_map fun _ => f

/-- A truth value is no function, nor does it hold one. -/
theorem named_of_checkTruth {b : Bool} (h : checkTruth v = .accepted b) : v.named = v := by
  cases v with
  | bool | text | bytes | int | float => rfl
  | _ => cases h

theorem optional_checkTruth_named {name : String} {default b : Bool}
    (h : (plain name).optional default checkTruth es = .accepted b) :
    (plain name).optional default checkTruth (Entries.mapValues named es) = .accepted b := by
  rw [optional_plain_eq_accepted_iff] at h ⊢
  rw [Value.field?_mapValues]
  refine h.imp ?_ ?_
  · rintro ⟨w, hw, hb⟩
    exact ⟨w, by rw [hw, Option.map_some, named_of_checkTruth hb], hb⟩
  · rintro ⟨hnone, hb⟩
    exact ⟨by rw [hnone]; rfl, hb⟩

theorem exists_optional_checkAny (name : String) (default : Value) (es : Mapping) :
    ∃ a, (plain name).optional default checkAny es = .accepted a := by
  unfold Field.optional
  cases (plain name).locate? es with
  | none => exact ⟨_, rfl⟩
  | some found => exact ⟨_, rfl⟩

/-- Extra fields are accepted by their keys alone. -/
theorem exists_extraEntries_mapValues {all : Mapping} {xs : List (String × Value)}
    (h : extraEntries fields all es = .accepted xs) :
    ∃ xs', extraEntries fields (Entries.mapValues f all) (Entries.mapValues f es) =
      .accepted xs' := by
  induction es generalizing xs with
  | nil => exact ⟨[], rfl⟩
  | cons e es ih =>
    obtain ⟨k, v⟩ := e
    change ∃ xs', extraEntries fields _ ((k, f v) :: Entries.mapValues f es) = .accepted xs'
    cases k with
    | text name =>
      simp only [extraEntries, claims_mapValues] at h ⊢
      split at h
      · rename_i hc
        rw [if_pos hc]
        exact ih h
      · rename_i hc
        rw [if_neg hc]
        obtain ⟨rest, hrest, -⟩ := Checked.map_eq_accepted_iff.mp h
        obtain ⟨rest', hrest'⟩ := ih hrest
        exact ⟨_, Checked.map_eq_accepted_iff.mpr ⟨rest', hrest', rfl⟩⟩
    | _ =>
      obtain ⟨_, _, hkey, -, -⟩ := Checked.seq_eq_accepted_iff.mp h
      cases hkey

/-! ## Definitions of properties -/

/-- Whether a key is none of the attributes of a definition. -/
def isUnknown : Value → Bool
  | .text name => !propertyAttributes.contains name
  | _ => true

/-- Whether an entry is a field of a nested object whose type is a constructor. -/
def constructsField (e : Value × Value) : Bool :=
  isUnknown e.1 && match e.2.exposed with
    | .function _ => true
    | _ => false

/-- A nested object that is taken for a definition, because its fields have constructors. -/
def hidesField (v : Value) : Bool :=
  match v.exposed with
  | .map es => isPropertyDefinition es && es.any constructsField
  | _ => false

/-- The type that a value in the place of a property states. -/
def statedType : Value → Value
  | .property type .. => type
  | v => ((Value.field? "type" (propertyEntries v)).getD .null).settled

theorem declaresField_named (k v : Value) :
    declaresField (k, v.named) = (declaresField (k, v) || constructsField (k, v)) := by
  simp only [declaresField, constructsField, isUnknown, Value.exposed_named]
  cases v.exposed <;> cases k <;> simp [named]

theorem isPropertyDefinition_named (es : Mapping) :
    isPropertyDefinition (Entries.mapValues named es) =
      (isPropertyDefinition es && !es.any constructsField) := by
  have hany : (Entries.mapValues named es).any declaresField =
      (es.any declaresField || es.any constructsField) := by
    induction es with
    | nil => rfl
    | cons e es ih =>
      obtain ⟨k, v⟩ := e
      change (declaresField (k, v.named) || (Entries.mapValues named es).any declaresField) = _
      rw [ih, declaresField_named, List.any_cons, List.any_cons]
      ac_rfl
  rw [isPropertyDefinition, isPropertyDefinition, hany, Value.field?_mapValues, Option.isSome_map,
    Bool.not_or, Bool.and_assoc]

/-- The entries that are checked for a named value are the named ones, unless it is a nested object
that shows only now. -/
theorem propertyEntries_named (v : Value) :
    propertyEntries v.named =
      if hidesField v then [(.text "type", v.named)]
      else Entries.mapValues named (propertyEntries v) := by
  unfold propertyEntries hidesField
  rw [Value.exposed_named]
  cases he : v.exposed with
  | map es =>
    simp only [named, Value.namedEntries_eq, isPropertyDefinition_named]
    cases isPropertyDefinition es with
    | false => rfl
    | true => cases es.any constructsField <;> rfl
  | _ => simp [named, Entries.mapValues]

theorem type_of_checkPropertyEntries (h : checkPropertyEntries es = .accepted p) :
    p.type = ((Value.field? "type" es).getD .null).settled := by
  simp only [checkPropertyEntries, Checked.seq_eq_accepted_iff, Checked.map_eq_accepted_iff] at h
  obtain ⟨_, _, h, -, rfl⟩ := h
  obtain ⟨_, _, h, -, rfl⟩ := h
  obtain ⟨_, _, h, -, rfl⟩ := h
  obtain ⟨_, _, h, -, rfl⟩ := h
  obtain ⟨type, ht, rfl⟩ := h
  rcases optional_plain_eq_accepted_iff.mp ht with ⟨w, hw, hc⟩ | ⟨hnone, rfl⟩
  · rw [hw]
    cases hc
    rfl
  · rw [hnone]
    rfl

theorem type_of_checkProperty (h : checkProperty v = .accepted p) : p.type = statedType v := by
  unfold checkProperty at h
  split at h
  · cases h
    rfl
  · rename_i hv
    rw [type_of_checkPropertyEntries h]
    unfold statedType
    split
    · exact absurd rfl (hv _ _ _ _ _)
    · rfl

theorem exists_checkPropertyEntries_named (h : checkPropertyEntries es = .accepted p) :
    ∃ p', checkPropertyEntries (Entries.mapValues named es) = .accepted p' := by
  simp only [checkPropertyEntries, Checked.seq_eq_accepted_iff, Checked.map_eq_accepted_iff] at h
  obtain ⟨_, extra, h, hextra, rfl⟩ := h
  obtain ⟨_, required, h, hrequired, rfl⟩ := h
  obtain ⟨_, generated, h, hgenerated, rfl⟩ := h
  obtain ⟨type, htype⟩ := exists_optional_checkAny "type" .null
    (Entries.mapValues named es)
  obtain ⟨id, hid⟩ := exists_optional_checkAny "id" (.bool false)
    (Entries.mapValues named es)
  have hgenerated := optional_checkTruth_named hgenerated
  have hrequired := optional_checkTruth_named hrequired
  obtain ⟨xs, hxs, -⟩ := Checked.map_eq_accepted_iff.mp hextra
  obtain ⟨xs', hxs'⟩ := exists_extraEntries_mapValues (f := named) hxs
  refine ⟨⟨type, id, generated, required, Entries.ofList xs'⟩, ?_⟩
  unfold checkPropertyEntries extraFields typeField idField generatedField requiredField
  rw [htype, hid, hgenerated, hrequired]
  exact Checked.seq_eq_accepted_iff.mpr ⟨_, _, rfl, congrArg (Checked.map Entries.ofList) hxs', rfl⟩

/-- A value is a validated property, or it stands for the entries of a definition. -/
theorem isProperty_or (v : Value) :
    (∃ type id generated required extra, v = .property type id generated required extra) ∨
      checkProperty v = checkPropertyEntries (propertyEntries v) ∧
      checkProperty v.named = checkPropertyEntries (propertyEntries v.named) ∧
      statedType v = ((Value.field? "type" (propertyEntries v)).getD .null).settled ∧
      statedType v.named =
        ((Value.field? "type" (propertyEntries v.named)).getD .null).settled := by
  cases v with
  | property => exact .inl ⟨_, _, _, _, _, rfl⟩
  | _ => exact .inr ⟨rfl, rfl, rfl, rfl⟩

theorem exists_checkProperty_named (h : checkProperty v = .accepted p) :
    ∃ p', checkProperty v.named = .accepted p' := by
  rcases isProperty_or v with ⟨_, _, _, _, _, rfl⟩ | ⟨hv, hnamed, -, -⟩
  · exact ⟨_, rfl⟩
  rw [hv] at h
  rw [hnamed, propertyEntries_named]
  split
  · exact ⟨_, rfl⟩
  · exact exists_checkPropertyEntries_named h

theorem statedType_named (v : Value) :
    statedType v.named = if hidesField v then v.settled.named else (statedType v).named := by
  rcases isProperty_or v with ⟨_, _, _, _, _, rfl⟩ | ⟨-, -, hv, hnamed⟩
  · rfl
  rw [hv, hnamed, propertyEntries_named]
  split
  · exact Value.settled_named v
  · rw [Value.field?_mapValues]
    cases Value.field? "type" (propertyEntries v) with
    | none => rfl
    | some w => exact Value.settled_named w

end Descriptor

namespace ObjC

open Descriptor (hidesField statedType)

variable {modelName name written : String} {type v : Value}

/-! ## Declarations -/

/-- The type with which a property is declared, or the fault at which the declaration stops. -/
def declaredType (modelName name : String) (type : Value) : Except Fault String :=
  if type.isWritable then propertyTypeOf modelName name type else .error .unwritable

/-- A value in the place of a property is declared as its named one. -/
structure ReadsAlike (v : Value) : Prop where
  /-- A nested object that is taken for a definition has the type of an object all the same. -/
  hidden : hidesField v = true → (statedType v).isWritable = v.settled.isWritable ∧
    (v.settled.isWritable = true → propertyType? (statedType v) = some "NSDictionary *")
  /-- The constructor of arrays has no counterpart, and its name has one. -/
  array : hidesField v = false → ∀ n ∈ arrayNames, statedType v ≠ .function n
  /-- A type without a counterpart is called the same in the fault. -/
  fault : hidesField v = false → (statedType v).isWritable = true →
    propertyType? (statedType v) = none → (statedType v).named.typeName = (statedType v).typeName

theorem declaredType_of_isWritable (hw : type.isWritable = true) :
    declaredType modelName name type = match propertyType? type with
      | none => .error (.unsupportedProperty type.typeName name modelName)
      | some written => .ok written := by
  have hn : type.hasTypeName = true := by
    unfold Value.hasTypeName
    split
    · rfl
    · exact hw
  rw [declaredType, if_pos hw, propertyTypeOf]
  cases propertyType? type with
  | none => simp only [Fault.ofType, hn, if_true]
  | some written => rfl

theorem declaredType_of_not_isWritable (hw : type.isWritable = false) :
    declaredType modelName name type = .error .unwritable := by
  rw [declaredType, hw]
  rfl

/-- A nested object is written out as a mapping. -/
theorem exists_settled_eq_map {es : List (Value × Value)} (h : v.exposed = .map es) :
    ∃ es', v.settled = .map es' := by
  rcases Value.eq_or_knot_of_exposed h with rfl | ⟨_, _, rfl⟩ <;> exact ⟨_, rfl⟩

theorem propertyType?_function (n : String) :
    propertyType? (.function n) = propertyTypes.lookup n := rfl

theorem propertyType?_name {n : String} (hn : n ∉ arrayNames) :
    propertyType? (.text n) = propertyTypes.lookup n := by
  simp [propertyType?, propertyKey?, isArray, hn]

theorem ownName?_named (hf : ∀ n, type ≠ .function n) :
    type.named.ownName? = type.ownName?.map Value.named := by
  cases type with
  | function n => exact absurd rfl (hf n)
  | endpoint | property =>
    simp only [Value.named, Value.ownName?, Value.namedFields_eq, Entries.find?_mapValues]
  | _ => rfl

/-- A validated part stands elsewhere in the table of properties if its name is a function, and it
is not called by the name of that function then. -/
theorem propertyType?_named_or (ha : ∀ n ∈ arrayNames, type ≠ .function n) :
    propertyType? type.named = propertyType? type ∨
      propertyType? type = none ∧ type.named.typeName ≠ type.typeName := by
  by_cases hf : ∃ n, type = .function n
  · obtain ⟨n, rfl⟩ := hf
    have hn : n ∉ arrayNames := fun hn => ha n hn rfl
    exact .inl (propertyType?_name hn)
  rw [not_exists] at hf
  have hown := ownName?_named hf
  -- The name of a function is shorter than the function when it is written.
  have hlength (n : String) : n ≠ (Value.function n).display := by
    intro h
    have hwritten : (Value.function n).display = "<function " ++ n ++ ">" := by
      simp only [Value.display, Value.literal]
    have hlength := congrArg String.length (h.trans hwritten)
    rw [String.length_append, String.length_append] at hlength
    have hopening : "<function ".length = 10 := rfl
    omega
  cases type with
  | function n => exact absurd rfl (hf n)
  | endpoint _ _ extra | property _ _ _ _ extra =>
    simp only [Value.named, Value.ownName?] at hown
    simp only [Value.named, propertyType?, propertyKey?, isArray, Value.typeName, Value.ownName?,
      hown]
    cases Entries.find? Value.nameKey extra with
    | none => exact .inl rfl
    | some v =>
      cases v with
      | function n => exact .inr ⟨rfl, hlength n⟩
      | _ => exact .inl rfl
  | _ => exact .inl rfl

theorem declaredType_eq_ok_iff : declaredType modelName name type = .ok written ↔
    type.isWritable = true ∧ propertyType? type = some written := by
  cases hw : type.isWritable with
  | false => simp [declaredType_of_not_isWritable hw]
  | true =>
    rw [declaredType_of_isWritable hw]
    cases propertyType? type <;> simp

theorem declaredType_eq_unwritable_iff :
    declaredType modelName name type = .error .unwritable ↔ type.isWritable = false := by
  cases hw : type.isWritable with
  | false => simp [declaredType_of_not_isWritable hw]
  | true =>
    rw [declaredType_of_isWritable hw]
    cases propertyType? type <;> simp

/-- A value that is not taken for a definition in error is declared as its type. -/
theorem declaredType_type_named_iff : declaredType modelName name type.named =
      declaredType modelName name type ↔
    (∀ n ∈ arrayNames, type ≠ .function n) ∧
      (type.isWritable = true → propertyType? type = none →
        type.named.typeName = type.typeName) := by
  have hwn := Value.isWritable_named type
  by_cases ha : ∃ n ∈ arrayNames, type = .function n
  · obtain ⟨n, hn, rfl⟩ := ha
    refine iff_of_false ?_ fun h => h.1 n hn rfl
    rw [Value.named, declaredType_of_isWritable rfl, declaredType_of_isWritable rfl,
      propertyType?_function]
    have harray : ∀ n ∈ arrayNames, propertyTypes.lookup n = none ∧
        propertyType? (.text n) = some "(nonatomic) NSArray *" := by decide
    rw [(harray n hn).1, (harray n hn).2]
    simp
  have ha : ∀ n ∈ arrayNames, type ≠ .function n := fun n hn h => ha ⟨n, hn, h⟩
  rw [and_iff_right ha]
  cases hw : type.isWritable with
  | false =>
    rw [declaredType_of_not_isWritable hw, declaredType_of_not_isWritable (hwn.trans hw)]
    simp
  | true =>
    rw [declaredType_of_isWritable hw, declaredType_of_isWritable (hwn.trans hw)]
    rcases propertyType?_named_or ha with heq | ⟨hnone, hne⟩
    · rw [heq]
      cases propertyType? type <;> simp
    · rw [hnone]
      cases propertyType? type.named <;> simp [hne]

/-- The entries of a nested object show as such by their names. -/
theorem statedType_named_of_hidesField (hh : hidesField v = true) :
    ∃ es, statedType v.named = .map es := by
  obtain ⟨es, he⟩ : ∃ es, v.exposed = .map es := by
    unfold hidesField at hh
    split at hh
    · exact ⟨_, ‹_›⟩
    · cases hh
  obtain ⟨es', hs⟩ := exists_settled_eq_map he
  rw [Descriptor.statedType_named, if_pos hh, hs]
  exact ⟨_, rfl⟩

theorem readsAlike_iff_of_hidesField (hh : hidesField v = true) :
    ReadsAlike v ↔ (statedType v).isWritable = v.settled.isWritable ∧
      (v.settled.isWritable = true → propertyType? (statedType v) = some "NSDictionary *") :=
  ⟨fun h => h.hidden hh, fun h => ⟨fun _ => h, by simp [hh], by simp [hh]⟩⟩

theorem readsAlike_iff_of_not_hidesField (hh : hidesField v = false) :
    ReadsAlike v ↔ (∀ n ∈ arrayNames, statedType v ≠ .function n) ∧
      ((statedType v).isWritable = true → propertyType? (statedType v) = none →
        (statedType v).named.typeName = (statedType v).typeName) :=
  ⟨fun h => ⟨h.array hh, h.fault hh⟩, fun ⟨ha, hf⟩ => ⟨by simp [hh], fun _ => ha, fun _ => hf⟩⟩

/-- A value is declared as its named one exactly if it reads alike. -/
theorem declaredType_named_iff :
    declaredType modelName name (statedType v.named) = declaredType modelName name (statedType v) ↔
      ReadsAlike v := by
  -- with its fields shown, a nested object states itself as its type
  cases hh : hidesField v with
  | false =>
    rw [Descriptor.statedType_named, hh, if_neg Bool.false_ne_true, declaredType_type_named_iff,
      readsAlike_iff_of_not_hidesField hh]
  | true =>
    obtain ⟨es, hes⟩ := statedType_named_of_hidesField hh
    have hw : (statedType v.named).isWritable = v.settled.isWritable := by
      rw [Descriptor.statedType_named, if_pos hh, Value.isWritable_named]
    rw [readsAlike_iff_of_hidesField hh, eq_comm]
    cases hs : v.settled.isWritable with
    | false =>
      rw [declaredType_of_not_isWritable (hw.trans hs), declaredType_eq_unwritable_iff]
      simp
    | true =>
      have hok : declaredType modelName name (statedType v.named) = .ok "NSDictionary *" :=
        declaredType_eq_ok_iff.mpr ⟨hw.trans hs, by rw [hes]; rfl⟩
      rw [hok, declaredType_eq_ok_iff]
      simp

end ObjC

end RemoteBindings
