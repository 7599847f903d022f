import RemoteBindings.Generation
import RemoteBindings.Proofs.ConstructorTypes

/-!
# Classes with the names of constructors

`namedProperties` writes a class with the names of the constructors in its properties. The checks of
the other fields see no difference (`optional_nameEntries`, `extraEntries_nameEntries`), and the
properties are accepted again, each with the type that its named value states
(`exists_checkModelClass_namedProperties`). So the properties are declared alike as long as each of
them reads alike, and `declarations_namedProperties` says how far that condition is necessary.
-/

namespace RemoteBindings

open Value (named)

/-! ## The properties of a class -/

namespace Value

variable {v : Value} {es : List (Value × Value)}

theorem isTruthy_named_of_false : (v : Value) → v.isTruthy = false → v.named.isTruthy = false
  | knot _ content, h => isTruthy_named_of_false content h
  | list [], _ | tuple [], _ | set [], _ | map [], _ => rfl
  | list (_ :: _), h | tuple (_ :: _), h | set (_ :: _), h | map (_ :: _), h | function _, h
  | endpoint .., h | property .., h => nomatch h
  | null, h | bool _, h | int _, h | float _, h | nan _, h | text _, h | bytes _, h | date _, h
  | timestamp _, h | again .., h => h

theorem isTruthy_named_of_exposed (h : v.exposed = .map es) : v.named.isTruthy = v.isTruthy := by
  have hmap (es : List (Value × Value)) : (map es).named.isTruthy = (map es).isTruthy := by
    cases es <;> rfl
  rcases eq_or_knot_of_exposed h with rfl | ⟨_, inner, rfl⟩
  · exact hmap es
  · exact hmap inner

end Value

namespace Descriptor

variable {v w : Value} {es es' : Mapping} {field : Field} {name : String} {c : ModelClass}

/-- A value under a key of a class, with the names of constructors if it holds the properties. -/
def nameUnder (key v : Value) : Value := if key.isText "properties" then v.named else v

def nameEntries (es : Mapping) : Mapping := es.map fun e => (e.1, nameUnder e.1 e.2)

/-- A class with the names of the constructors in its properties. -/
def namedProperties (cls : Value) : Value :=
  match cls.exposed with
  | .map es => .map (nameEntries es)
  | v => v

/-- The entries of a mapping whose keys hold texts, by these texts. -/
def keyed (es : Mapping) : Entries String Value :=
  es.filterMap fun e => (textOf? e.1).map (·, e.2)

/-- The properties of a class as they are given. -/
def givenProperties (cls : Value) : Entries String Value :=
  match (emptyAsMapping (stated "properties" cls)).exposed with
  | .map es => Entries.ofList (keyed es)
  | _ => []

theorem field?_nameEntries (hn : name ≠ "properties") :
    Value.field? name (nameEntries es) = Value.field? name es := by
  have hv (v : Value) : nameUnder (.text name) v = v := by simp [nameUnder, Value.isText, hn]
  rw [nameEntries, Value.field?_map]
  cases Value.field? name es with
  | none => rfl
  | some v => rw [Option.map_some, hv]

theorem field?_properties_nameEntries :
    Value.field? "properties" (nameEntries es) = (Value.field? "properties" es).map named :=
  Value.field?_map nameUnder

theorem nameEntries_of_field?_eq_none (h : Value.field? "properties" es = none) :
    nameEntries es = es := by
  induction es with
  | nil => rfl
  | cons e es ih =>
    obtain ⟨hk, hes⟩ := Value.field?_cons_eq_none_iff.mp h
    have hkey : e.1.isText "properties" = false := by
      rw [Bool.eq_false_iff]
      intro ht
      unfold Value.isText at ht
      split at ht
      · exact hk (by rw [‹e.1 = _›, eq_of_beq ht])
      · cases ht
    change (e.1, nameUnder e.1 e.2) :: nameEntries es = _
    rw [ih hes, nameUnder, hkey, if_neg Bool.false_ne_true]

/-! ## Checks of the other fields -/

theorem locate?_nameEntries (hp : field.preferred ≠ "properties") (hn : field.name ≠ "properties") :
    field.locate? (nameEntries es) = field.locate? es := by
  rw [Field.locate?, field?_nameEntries hp, field?_nameEntries hn, Field.locate?]

theorem optional_nameEntries {α : Type} {default : α} {check : Check α}
    (hp : field.preferred ≠ "properties") (hn : field.name ≠ "properties") :
    field.optional default check (nameEntries es) = field.optional default check es := by
  rw [Field.optional, locate?_nameEntries hp hn, Field.optional]

/-- A required field that is there is found under the names of constructors as well. -/
theorem required_nameEntries {α : Type} {a : α} {check : Check α}
    (hp : field.preferred ≠ "properties") (hn : field.name ≠ "properties")
    (h : field.required check es = .accepted a) :
    field.required check (nameEntries es) = .accepted a := by
  rw [Field.required] at h ⊢
  rw [locate?_nameEntries hp hn]
  split at h
  · exact h
  · cases h

/-- The properties are no extra field, so the extra fields stay the same. -/
theorem extraEntries_nameEntries {fields : List Field}
    (hp : fields.any (Field.claims es "properties") = true) (part : Mapping) :
    extraEntries fields (nameEntries es) (nameEntries part) = extraEntries fields es part := by
  induction part with
  | nil => rfl
  | cons e part ih =>
    obtain ⟨k, v⟩ := e
    change extraEntries fields _ ((k, nameUnder k v) :: nameEntries part) = _
    cases k with
    | text s =>
      rw [extraEntries, extraEntries, nameEntries, claims_map, ← nameEntries, ih]
      split
      · rfl
      · rename_i hs
        have hs : s ≠ "properties" := fun h => hs (h ▸ hp)
        rw [nameUnder, Value.isText, if_neg (by simpa using hs)]
    | _ => simp only [extraEntries, ih]

/-! ## Checks of the properties -/

theorem textOf?_of_checkText {s : String} (h : checkText v = .accepted s) : textOf? v = some s := by
  apply textOf?_of_checkOptionalText
  cases v with
  | null => cases h
  | _ => exact congrArg (Checked.map some) h

/-- Named entries are accepted where the entries are, and each has the type that its value
states. -/
theorem exists_checkEntries_named {ps : List (String × Property)}
    (h : checkEntries checkProperty es = .accepted ps) :
    Entries.mapValues Property.type ps = Entries.mapValues statedType (keyed es) ∧
      ∃ ps', checkEntries checkProperty (Entries.mapValues named es) = .accepted ps' ∧
        Entries.mapValues Property.type ps' =
          Entries.mapValues (fun v => statedType v.named) (keyed es) := by
  induction es generalizing ps with
  | nil =>
    cases h
    exact ⟨rfl, [], rfl, rfl⟩
  | cons e es ih =>
    obtain ⟨k, v⟩ := e
    simp only [checkEntries, Checked.seq_eq_accepted_iff, Checked.map_eq_accepted_iff] at h
    obtain ⟨_, rest, ⟨_, p, ⟨key, hkey, rfl⟩, hp, rfl⟩, hrest, rfl⟩ := h
    have hk := textOf?_of_checkText
      (Checked.under_eq_accepted_iff.mp (Checked.under_eq_accepted_iff.mp hkey))
    have hp := Checked.under_eq_accepted_iff.mp hp
    obtain ⟨p', hp'⟩ := exists_checkProperty_named hp
    obtain ⟨htypes, rest', hrest', htypes'⟩ := ih hrest
    have hkeyed : keyed ((k, v) :: es) = (key, v) :: keyed es := by
      simp [keyed, hk]
    rw [hkeyed]
    refine ⟨?_, (key, p') :: rest', ?_, ?_⟩
    · exact congrArg₂ List.cons (congrArg (Prod.mk key) (type_of_checkProperty hp)) htypes
    · exact Checked.seq_eq_accepted_iff.mpr ⟨_, rest', Checked.seq_eq_accepted_iff.mpr
        ⟨_, p', Checked.map_eq_accepted_iff.mpr ⟨key, hkey, rfl⟩,
          Checked.under_eq_accepted_iff.mpr hp', rfl⟩, hrest', rfl⟩
    · exact congrArg₂ List.cons (congrArg (Prod.mk key) (type_of_checkProperty hp')) htypes'

theorem exposed_emptyAsMapping_named (h : (emptyAsMapping v).exposed = .map es) :
    (emptyAsMapping v.named).exposed = .map (Entries.mapValues named es) := by
  unfold emptyAsMapping at h ⊢
  cases ht : v.isTruthy with
  | true =>
    rw [if_pos ht] at h
    rw [if_pos ((Value.isTruthy_named_of_exposed h).trans ht), Value.exposed_named, h, named,
      Value.namedEntries_eq]
  | false =>
    rw [if_neg (ht ▸ Bool.false_ne_true)] at h
    rw [if_neg (Value.isTruthy_named_of_false v ht ▸ Bool.false_ne_true)]
    cases h
    rfl

theorem exists_checkProperties_named {ps : Entries String Property}
    (h : checkMapping checkProperty (emptyAsMapping v) = .accepted ps) :
    ∃ es, (emptyAsMapping v).exposed = .map es ∧
      Entries.mapValues Property.type ps =
        Entries.mapValues statedType (Entries.ofList (keyed es)) ∧
      ∃ ps', checkMapping checkProperty (emptyAsMapping v.named) = .accepted ps' ∧
        Entries.mapValues Property.type ps' =
          Entries.mapValues (fun v => statedType v.named) (Entries.ofList (keyed es)) := by
  unfold checkMapping at h ⊢
  split at h
  case h_2 => cases h
  case h_1 es he =>
    obtain ⟨qs, hqs, rfl⟩ := Checked.map_eq_accepted_iff.mp h
    obtain ⟨htypes, qs', hqs', htypes'⟩ := exists_checkEntries_named hqs
    rw [exposed_emptyAsMapping_named he]
    refine ⟨es, he, ?_, Entries.ofList qs', Checked.map_eq_accepted_iff.mpr ⟨qs', hqs', rfl⟩, ?_⟩
    · rw [← Entries.ofList_mapValues, htypes, Entries.ofList_mapValues]
    · rw [← Entries.ofList_mapValues, htypes', Entries.ofList_mapValues]

/-! ## Checks of classes -/

theorem checkModelClass_of_parts {cls : Value} (he : cls.exposed = .map es)
    (hparts : AcceptedParts es c) : checkModelClass cls =
      (extraFields modelClassFields es).map fun extra => { c with extra } := by
  rw [checkModelClass, checkPart, he]
  change _ <*> extraFields modelClassFields es = _
  simp only [hparts.name, hparts.pluralName, hparts.ctor, hparts.isUser, hparts.properties,
    hparts.settings, hparts.methods, hparts.scopeTargets]
  cases extraFields modelClassFields es <;> rfl

/-- A class is accepted exactly if its parts are. -/
theorem checkModelClass_eq_accepted_iff {cls : Value} : checkModelClass cls = .accepted c ↔
    ∃ es, cls.exposed = .map es ∧ AcceptedParts es c ∧
      extraFields modelClassFields es = .accepted c.extra := by
  constructor
  · intro h
    obtain ⟨es, he, hparts⟩ := parts_of_checkModelClass h
    rw [checkModelClass_of_parts he hparts] at h
    obtain ⟨extra, hextra, hc⟩ := Checked.map_eq_accepted_iff.mp h
    exact ⟨es, he, hparts, hextra.trans (congrArg (Checked.accepted ·.extra) hc)⟩
  · rintro ⟨es, he, hparts, hextra⟩
    rw [checkModelClass_of_parts he hparts, hextra]
    rfl

theorem exists_checkModelClass_namedProperties {cls : Value}
    (h : checkModelClass cls = .accepted c) :
    Entries.mapValues Property.type c.properties =
        Entries.mapValues statedType (givenProperties cls) ∧
      ∃ ps, checkModelClass (namedProperties cls) = .accepted { c with properties := ps } ∧
        Entries.mapValues Property.type ps =
          Entries.mapValues (fun v => statedType v.named) (givenProperties cls) := by
  obtain ⟨es, he, hparts, hextra⟩ := checkModelClass_eq_accepted_iff.mp h
  have hes : (namedProperties cls).exposed = .map (nameEntries es) := by
    rw [namedProperties, he]
    rfl
  rw [givenProperties, stated_of_exposed he]
  -- without properties there is nothing to name
  rcases optional_plain_eq_accepted_iff.mp hparts.properties with ⟨w, hw, hcheck⟩ | ⟨hnone, hnil⟩
  · obtain ⟨qs, hqs, htypes, ps, hps, htypes'⟩ := exists_checkProperties_named hcheck
    rw [hw, Option.getD_some, hqs]
    have hclaims : Field.claims es "properties" propertiesField = true := by
      simp [Field.claims, Field.locate?, propertiesField, plain, hw]
    have hany : modelClassFields.any (Field.claims es "properties") = true := by
      simp [modelClassFields, hclaims]
    refine ⟨htypes, ps, checkModelClass_eq_accepted_iff.mpr ⟨nameEntries es, hes, ?_, ?_⟩, htypes'⟩
    · exact {
        name := required_nameEntries (by decide) (by decide) hparts.name
        pluralName := (optional_nameEntries (by decide) (by decide)).trans hparts.pluralName
        ctor := (optional_nameEntries (by decide) (by decide)).trans hparts.ctor
        isUser := (optional_nameEntries (by decide) (by decide)).trans hparts.isUser
        properties := optional_plain_eq_accepted_iff.mpr
          (.inl ⟨w.named, by rw [field?_properties_nameEntries, hw, Option.map_some], hps⟩)
        settings := (optional_nameEntries (by decide) (by decide)).trans hparts.settings
        methods := (optional_nameEntries (by decide) (by decide)).trans hparts.methods
        scopeTargets := (optional_nameEntries (by decide) (by decide)).trans hparts.scopeTargets }
    · rw [extraFields, extraEntries_nameEntries hany, ← extraFields]
      exact hextra
  · rw [hnone, hnil]
    refine ⟨rfl, [], checkModelClass_eq_accepted_iff.mpr ⟨es, ?_, ?_, hextra⟩, rfl⟩
    · rw [hes, nameEntries_of_field?_eq_none hnone]
    · exact { hparts with properties := hnil ▸ hparts.properties }

end Descriptor

/-! ## Declarations -/

namespace ObjC

open Descriptor (checkModelClass namedProperties givenProperties statedType)

variable {modelName : String} {cls : Value} {c : Descriptor.ModelClass}

/-- The declarations of properties with the given types; the base class declares the id. -/
def declareTypes (modelName : String) :
    Entries String Value → Except Fault (List DeclaredProperty)
  | [] => .ok []
  | (name, type) :: types =>
    if name = "id" then declareTypes modelName types
    else do
      let written ← declaredType modelName name type
      let rest ← declareTypes modelName types
      pure (⟨name, written⟩ :: rest)

/-- The declarations of a class, described with a constructor. -/
def declarations (c : Descriptor.ModelClass) (ctor : Descriptor.Ctor) :
    Except Fault (List DeclaredProperty) :=
  let model := Model.ofDescriptor c ctor
  (declare model.name model.properties).toExcept

/-- Whether a value in the place of a property has a declaration. -/
def isDeclared (v : Value) : Bool :=
  (statedType v).isWritable && (propertyType? (statedType v)).isSome

/-- The properties up to the first one that has no declaration. -/
def reached : Entries String Value → Entries String Value
  | [] => []
  | (name, v) :: es =>
    if name = "id" then reached es
    else (name, v) :: if isDeclared v then reached es else []

theorem toExcept_declare (ps : Entries String Property) :
    (declare modelName ps).toExcept =
      declareTypes modelName (Entries.mapValues Property.type ps) := by
  induction ps with
  | nil => rfl
  | cons e ps ih =>
    obtain ⟨name, p⟩ := e
    change _ = declareTypes modelName ((name, p.type) :: Entries.mapValues Property.type ps)
    rw [declareTypes, ← ih, declare]
    split
    · rfl
    unfold declaredType
    cases p.type.isWritable with
    | false => rfl
    | true =>
      simp only [Bool.not_true, Bool.false_eq_true, if_false, if_true]
      cases propertyTypeOf modelName name p.type with
      | error e => rfl
      | ok written =>
        unfold Run.toExcept Run.after Run.map
        cases (declare modelName ps).fault <;> rfl

theorem isDeclared_of_ok {name written : String} {v : Value}
    (h : declaredType modelName name (statedType v) = .ok written) : isDeclared v = true := by
  obtain ⟨hw, hs⟩ := declaredType_eq_ok_iff.mp h
  rw [isDeclared, hw, hs]
  rfl

/-- Named values are declared as the values are if those that count read alike. -/
theorem declareTypes_named {es : Entries String Value} (h : ∀ e ∈ reached es, ReadsAlike e.2) :
    declareTypes modelName (Entries.mapValues (fun v => statedType v.named) es) =
      declareTypes modelName (Entries.mapValues statedType es) := by
  induction es with
  | nil => rfl
  | cons e es ih =>
    obtain ⟨name, v⟩ := e
    change declareTypes modelName ((name, statedType v.named) ::
      Entries.mapValues (fun v => statedType v.named) es) =
        declareTypes modelName ((name, statedType v) :: Entries.mapValues statedType es)
    rw [reached] at h
    rw [declareTypes, declareTypes]
    split
    · rename_i hid
      rw [if_pos hid] at h
      exact ih h
    · rename_i hid
      rw [if_neg hid] at h
      rw [declaredType_named_iff.mpr (h _ List.mem_cons_self)]
      cases hd : declaredType modelName name (statedType v) with
      | error e => rfl
      | ok written =>
        rw [isDeclared_of_ok hd, if_pos rfl] at h
        rw [ih fun e he => h e (List.mem_cons_of_mem _ he)]

theorem declareTypes_cons_eq_ok_iff {name : String} {type : Value} {types : Entries String Value}
    {ds : List DeclaredProperty} (hid : name ≠ "id") :
    declareTypes modelName ((name, type) :: types) = .ok ds ↔
      ∃ written rest, declaredType modelName name type = .ok written ∧
        declareTypes modelName types = .ok rest ∧ ⟨name, written⟩ :: rest = ds := by
  rw [declareTypes, if_neg hid]
  cases declaredType modelName name type with
  | error e => simp [bind, Except.bind]
  | ok written => cases declareTypes modelName types <;> simp [bind, Except.bind, pure, Except.pure]

/-- Where all properties are declared, each of them has to read alike. -/
theorem readsAlike_of_declareTypes {es : Entries String Value} {ds : List DeclaredProperty}
    (hds : declareTypes modelName (Entries.mapValues statedType es) = .ok ds)
    (h : declareTypes modelName (Entries.mapValues (fun v => statedType v.named) es) = .ok ds) :
    ∀ e ∈ reached es, ReadsAlike e.2 := by
  induction es generalizing ds with
  | nil => exact fun _ he => nomatch he
  | cons e es ih =>
    obtain ⟨name, v⟩ := e
    change declareTypes modelName ((name, statedType v) :: Entries.mapValues statedType es) = _
      at hds
    change declareTypes modelName ((name, statedType v.named) ::
      Entries.mapValues (fun v => statedType v.named) es) = _ at h
    rw [reached]
    split
    · rename_i hid
      rw [declareTypes, if_pos hid] at hds h
      exact ih hds h
    · rename_i hid
      obtain ⟨written, rest, hw, hrest, rfl⟩ := (declareTypes_cons_eq_ok_iff hid).mp hds
      obtain ⟨written', rest', hw', hrest', heq⟩ := (declareTypes_cons_eq_ok_iff hid).mp h
      obtain ⟨hfirst, rfl⟩ := List.cons.inj heq
      obtain ⟨-, rfl⟩ := DeclaredProperty.mk.inj hfirst
      rw [if_pos (isDeclared_of_ok hw), List.forall_mem_cons]
      exact ⟨declaredType_named_iff.mp (hw'.trans hw.symm), ih hrest hrest'⟩

theorem declarations_eq (c : Descriptor.ModelClass) (ctor : Descriptor.Ctor) :
    declarations c ctor =
      declareTypes c.name (Entries.mapValues Descriptor.Property.type c.properties) := by
  have htypes : Entries.mapValues Property.type (Model.ofDescriptor c ctor).properties =
      Entries.mapValues Descriptor.Property.type c.properties := by
    rw [Entries.mapValues, Model.ofDescriptor, List.map_map]
    rfl
  rw [declarations, toExcept_declare, htypes]
  rfl

/-- A class with the names of the constructors in its properties is accepted as well and differs in
its properties alone. They are declared as before if those up to the first one without a
declaration read alike; where all are declared, they have to. -/
theorem declarations_namedProperties (h : checkModelClass cls = .accepted c) :
    ∃ ps, checkModelClass (namedProperties cls) = .accepted { c with properties := ps } ∧
      ∀ ctor,
        ((∀ e ∈ reached (givenProperties cls), ReadsAlike e.2) →
          declarations { c with properties := ps } ctor = declarations c ctor) ∧
        ∀ ds, declarations c ctor = .ok ds →
          (declarations { c with properties := ps } ctor = .ok ds ↔
            ∀ e ∈ reached (givenProperties cls), ReadsAlike e.2) := by
  obtain ⟨htypes, ps, hps, htypes'⟩ := Descriptor.exists_checkModelClass_namedProperties h
  refine ⟨ps, hps, fun ctor => ?_⟩
  rw [declarations_eq, declarations_eq, htypes, htypes']
  exact ⟨declareTypes_named, fun ds hds =>
    ⟨readsAlike_of_declareTypes hds, fun hread => (declareTypes_named hread).trans hds⟩⟩

/-- A class Note with the given properties. -/
def noteWith (properties : List (String × Value)) : Value :=
  .map [(.text "name", .text "Note"), (.text "ctor", .map []),
    (.text "properties", .map (properties.map fun e => (.text e.1, e.2)))]

/-- The properties of a note, typed by constructors: on their own, in a list, in a nested object and
in a definition. -/
def noteProperties : List (String × Value) :=
  [("title", .function "String"), ("tags", .list [.function "String"]),
    ("place", .map [(.text "lat", .function "Number")]),
    ("code", .map [(.text "type", .function "Date"), (.text "required", .bool true)])]

theorem declarations_namedProperties_note :
    ∃ c ps, checkModelClass (noteWith noteProperties) = .accepted c ∧
      checkModelClass (namedProperties (noteWith noteProperties)) =
        .accepted { c with properties := ps } ∧
      declarations { c with properties := ps } ⟨[], Descriptor.Binding.default, []⟩ =
        .ok [⟨"title", "(nonatomic, copy) NSString *"⟩, ⟨"tags", "(nonatomic) NSArray *"⟩,
          ⟨"place", "NSDictionary *"⟩, ⟨"code", "NSDate *"⟩] := by
  have hclass : checkModelClass (noteWith noteProperties) = .accepted _ := rfl
  obtain ⟨ps, hps, h⟩ := declarations_namedProperties hclass
  refine ⟨_, ps, rfl, hps, ((h _).1 ?_).trans rfl⟩
  have hreached : reached (givenProperties (noteWith noteProperties)) = noteProperties := rfl
  have alike {v : Value} (h : declaredType "Note" "" (statedType v.named) =
      declaredType "Note" "" (statedType v)) : ReadsAlike v := declaredType_named_iff.mp h
  rw [hreached, noteProperties]
  simp only [List.forall_mem_cons]
  exact ⟨alike rfl, alike rfl, alike rfl, alike rfl, fun _ h => nomatch h⟩

/-- The constructor of arrays has no declaration, and a nested object whose fields have
constructors is declared as one of them. -/
theorem not_declarations_namedProperties :
    (∃ c c', checkModelClass (noteWith [("tags", .function "Array")]) = .accepted c ∧
      checkModelClass (namedProperties (noteWith [("tags", .function "Array")])) = .accepted c' ∧
      declarations c ⟨[], Descriptor.Binding.default, []⟩ =
        .error (.unsupportedProperty "Array" "tags" "Note") ∧
      declarations c' ⟨[], Descriptor.Binding.default, []⟩ =
        .ok [⟨"tags", "(nonatomic) NSArray *"⟩]) ∧
    ∃ c c', checkModelClass (noteWith [("place", .map [(.text "lat", .function "Number"),
        (.text "type", .function "String")])]) = .accepted c ∧
      checkModelClass (namedProperties (noteWith [("place", .map [(.text "lat", .function "Number"),
        (.text "type", .function "String")])])) = .accepted c' ∧
      declarations c ⟨[], Descriptor.Binding.default, []⟩ =
        .ok [⟨"place", "(nonatomic, copy) NSString *"⟩] ∧
      declarations c' ⟨[], Descriptor.Binding.default, []⟩ = .ok [⟨"place", "NSDictionary *"⟩] :=
  ⟨⟨_, _, rfl, rfl, rfl, rfl⟩, ⟨_, _, rfl, rfl, rfl, rfl⟩⟩

end ObjC

end RemoteBindings
