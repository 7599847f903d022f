import RemoteBindings.Proofs.ConstructorTypes
import RemoteBindings.Proofs.Entries

/-!
# The normal form of a property

A validated property is written as the mapping of its type, its three marks and its extra fields
(`Property.fields`). That mapping is a definition again: an extra field under a name that is no
attribute is neither a text nor a list nor a mapping, or the value that it comes from would have
been an anonymous object (`isNormal_of_checkPropertyEntries`). So it is validated to the very
property (`checkProperty_fields`), and a value that is no definition is the type of a property that
states nothing else: `checkProperty_normal` puts the two together. A type is written out, which
changes nothing unless its collections have labels (`Value.settled_eq_iff`).
-/

namespace RemoteBindings

/-! ## Written values -/

namespace Value

variable {v : Value} {es : List (Value × Value)}

mutual

/-- Whether no collection has a label. -/
def isUnlabelled : Value → Bool
  | knot .. => false
  | list items => areUnlabelled items
  | tuple items => areUnlabelled items
  | map entries => areEntriesUnlabelled entries
  | _ => true

def areUnlabelled : List Value → Bool
  | [] => true
  | v :: vs => isUnlabelled v && areUnlabelled vs

def areEntriesUnlabelled : List (Value × Value) → Bool
  | [] => true
  | (_, v) :: es => isUnlabelled v && areEntriesUnlabelled es

end

mutual

theorem isUnlabelled_settle (labels : List Nat) :
    (v : Value) → (settle labels v).isUnlabelled = true
  | knot label content => by
    rw [settle]
    split
    · rfl
    · exact isUnlabelled_settle (label :: labels) content
  | list items => by simp [settle, isUnlabelled, areUnlabelled_settleItems labels items]
  | tuple items => by simp [settle, isUnlabelled, areUnlabelled_settleItems labels items]
  | map entries => by simp [settle, isUnlabelled, areEntriesUnlabelled_settleEntries labels entries]
  | null | bool _ | int _ | float _ | nan _ | text _ | bytes _ | date _ | timestamp _ | set _
  | function _ | again .. | endpoint .. | property .. => by simp [settle, isUnlabelled]

theorem areUnlabelled_settleItems (labels : List Nat) :
    (vs : List Value) → areUnlabelled (settleItems labels vs) = true
  | [] => rfl
  | v :: vs => by
    simp [settleItems, areUnlabelled, isUnlabelled_settle labels v,
      areUnlabelled_settleItems labels vs]

theorem areEntriesUnlabelled_settleEntries (labels : List Nat) :
    (es : List (Value × Value)) → areEntriesUnlabelled (settleEntries labels es) = true
  | [] => rfl
  | (k, v) :: es => by
    simp [settleEntries, areEntriesUnlabelled, isUnlabelled_settle labels v,
      areEntriesUnlabelled_settleEntries labels es]

end

mutual

theorem settle_of_isUnlabelled (labels : List Nat) :
    (v : Value) → v.isUnlabelled = true → settle labels v = v
  | knot .., h => nomatch h
  | list items, h => by rw [settle, settleItems_of_areUnlabelled labels items h]
  | tuple items, h => by rw [settle, settleItems_of_areUnlabelled labels items h]
  | map entries, h => by rw [settle, settleEntries_of_areEntriesUnlabelled labels entries h]
  | null, _ | bool _, _ | int _, _ | float _, _ | nan _, _ | text _, _ | bytes _, _ | date _, _
  | timestamp _, _ | set _, _ | function _, _ | again .., _ | endpoint .., _ | property .., _ => by
    simp [settle]

theorem settleItems_of_areUnlabelled (labels : List Nat) :
    (vs : List Value) → areUnlabelled vs = true → settleItems labels vs = vs
  | [], _ => rfl
  | v :: vs, h => by
    rw [areUnlabelled, Bool.and_eq_true] at h
    rw [settleItems, settle_of_isUnlabelled labels v h.1,
      settleItems_of_areUnlabelled labels vs h.2]

theorem settleEntries_of_areEntriesUnlabelled (labels : List Nat) :
    (es : List (Value × Value)) → areEntriesUnlabelled es = true → settleEntries labels es = es
  | [], _ => rfl
  | (k, v) :: es, h => by
    rw [areEntriesUnlabelled, Bool.and_eq_true] at h
    rw [settleEntries, settle_of_isUnlabelled labels v h.1,
      settleEntries_of_areEntriesUnlabelled labels es h.2]

end

/-- Exactly the values without labels stay as they are when they are written out. -/
theorem settled_eq_iff : v.settled = v ↔ v.isUnlabelled = true :=
  ⟨fun h => h ▸ isUnlabelled_settle [] v, settle_of_isUnlabelled [] v⟩

/-- A value that is written out stays as it is. -/
@[simp] theorem settled_settled (v : Value) : v.settled.settled = v.settled :=
  settled_eq_iff.mpr (isUnlabelled_settle [] v)

def isCollection : Value → Bool
  | list _ | tuple _ | set _ | map _ => true
  | _ => false

mutual

/-- Whether all labels are at collections. -/
def isLabelled : Value → Bool
  | knot _ content => content.isCollection && isLabelled content
  | list items => areLabelled items
  | tuple items => areLabelled items
  | map entries => areEntriesLabelled entries
  | _ => true

def areLabelled : List Value → Bool
  | [] => true
  | v :: vs => isLabelled v && areLabelled vs

def areEntriesLabelled : List (Value × Value) → Bool
  | [] => true
  | (_, v) :: es => isLabelled v && areEntriesLabelled es

end

/-- A label of the value itself is at a collection. -/
def IsLabelledTop (v : Value) : Prop := ∀ label content, v = knot label content →
  content.isCollection = true

theorem isLabelledTop_of_isLabelled (h : v.isLabelled = true) : v.IsLabelledTop := by
  rintro label content rfl
  rw [isLabelled, Bool.and_eq_true] at h
  exact h.1

theorem isLabelled_of_mem (h : areEntriesLabelled es = true) :
    ∀ e ∈ es, e.2.isLabelled = true := by
  induction es with
  | nil => exact fun _ he => nomatch he
  | cons e es ih =>
    rw [areEntriesLabelled, Bool.and_eq_true] at h
    exact List.forall_mem_cons.mpr ⟨h.1, ih h.2⟩

theorem isCollection_restore {label : Nat} {whole : Value} (h : v.isCollection = true) :
    (restore label whole v).isCollection = true := by
  cases v with
  | list | tuple | set | map => simp [restore, isCollection]
  | _ => cases h

theorem isLabelledTop_restore {label : Nat} {whole : Value} (hw : whole.IsLabelledTop)
    (h : v.IsLabelledTop) : (restore label whole v).IsLabelledTop := by
  cases v with
  | again l isMapping =>
    rw [restore]
    split
    · exact hw
    · exact nofun
  | knot l content =>
    have hc := h l content rfl
    rw [restore]
    split
    · exact h
    · rintro _ _ ⟨⟩
      exact isCollection_restore hc
  | _ => simp [restore, IsLabelledTop]

/-- The values in a mapping are labelled as the mapping is. -/
theorem isLabelledTop_of_exposed (h : v.isLabelled = true) (he : v.exposed = map es) :
    ∀ e ∈ es, e.2.IsLabelledTop := by
  rcases eq_or_knot_of_exposed he with rfl | ⟨label, inner, rfl⟩
  · exact fun e hmem => isLabelledTop_of_isLabelled (isLabelled_of_mem h e hmem)
  · have hinner : areEntriesLabelled inner = true := (Bool.and_eq_true_iff.mp h).2
    have hes : es = restoreEntries label (knot label (map inner)) inner := by
      rw [exposed, restore] at he
      exact (map.inj he).symm
    have hrestored (part : List (Value × Value)) (hp : areEntriesLabelled part = true) :
        ∀ e ∈ restoreEntries label (knot label (map inner)) part, e.2.IsLabelledTop := by
      induction part with
      | nil => exact fun _ hmem => (List.not_mem_nil hmem).elim
      | cons e part ih =>
        rw [areEntriesLabelled, Bool.and_eq_true] at hp
        exact List.forall_mem_cons.mpr ⟨isLabelledTop_restore (isLabelledTop_of_isLabelled h)
          (isLabelledTop_of_isLabelled hp.1), ih hp.2⟩
    exact hes ▸ hrestored inner hinner

end Value

namespace Descriptor

variable {k v w : Value} {es : Mapping} {p : Property} {name field : String}

/-- Written out, a value is a text, a list or a mapping as before. -/
theorem declaresField_settled (h : v.IsLabelledTop) :
    declaresField (k, v.settled) = declaresField (k, v) := by
  cases v with
  | knot label content =>
    have hc := h label content rfl
    cases content with
    | list | tuple | set | map =>
      simp [declaresField, Value.exposed, Value.settled, Value.settle, Value.restore]
    | _ => cases hc
  | _ => simp [declaresField, Value.exposed, Value.settled, Value.settle]

/-! ## Fields -/

def propertyFields : List Field := [typeField, idField, generatedField, requiredField]

/-- A property as the mapping of its fields. -/
def Property.fields (p : Property) : Mapping :=
  Value.propertyFields p.type p.id p.generated p.required p.extra

/-- What the extra fields of a validated property are: written out, under distinct names that no
field has, and none of them would be read as a field of an anonymous object. -/
structure Property.IsNormal (p : Property) : Prop where
  type : p.type.settled = p.type
  id : p.id.settled = p.id
  names : p.extra.keys.Nodup
  unclaimed : ∀ e ∈ p.extra, ∀ f ∈ propertyFields, e.1 ≠ f.name
  settled : ∀ e ∈ p.extra, e.2.settled = e.2
  undeclared : ∀ e ∈ p.extra, declaresField (.text e.1, e.2) = false

/-- A field of a property claims the entries under its one name. -/
theorem claims_iff {f : Field} (hf : f ∈ propertyFields) :
    f.claims es name = true ↔ name = f.name ∧ (Value.field? name es).isSome = true := by
  obtain ⟨n, rfl⟩ : ∃ n, f = plain n := by
    simp only [propertyFields, List.mem_cons, List.not_mem_nil, or_false] at hf
    rcases hf with rfl | rfl | rfl | rfl <;> exact ⟨_, rfl⟩
  change _ ↔ name = n ∧ _
  unfold Field.claims Field.locate? plain
  cases hv : Value.field? n es with
  | none => simpa using fun h : name = n => h ▸ hv
  | some v =>
    rw [beq_iff_eq, eq_comm]
    exact (and_iff_left_of_imp fun h => by rw [h, hv]; rfl).symm

theorem field?_isSome_of_mem (h : (.text name, v) ∈ es) : (Value.field? name es).isSome = true := by
  induction es with
  | nil => cases h
  | cons e es ih =>
    obtain ⟨k, u⟩ := e
    by_cases hk : k = .text name
    · rw [hk, Value.field?, if_pos rfl]
      rfl
    · rw [Value.field?_cons_of_ne hk]
      refine ih ((List.mem_cons.mp h).resolve_left fun heq => hk ?_)
      exact (Prod.mk.inj heq).1.symm

/-- Each extra field is an entry that no field claims, written out. -/
theorem mem_of_extraEntries {fields : List Field} {all : Mapping} {xs : List (String × Value)}
    (h : extraEntries fields all es = .accepted xs) :
    ∀ x ∈ xs, fields.any (Field.claims all x.1) = false ∧
      ∃ u, (.text x.1, u) ∈ es ∧ x.2 = u.settled := by
  induction es generalizing xs with
  | nil =>
    cases h
    exact fun _ hx => nomatch hx
  | cons e es ih =>
    obtain ⟨k, u⟩ := e
    have hmem {x : String × Value} (hx : ∃ w, (Value.text x.1, w) ∈ es ∧ x.2 = w.settled) :
        ∃ w, (Value.text x.1, w) ∈ (k, u) :: es ∧ x.2 = w.settled :=
      hx.imp fun w hw => ⟨List.mem_cons_of_mem _ hw.1, hw.2⟩
    cases k with
    | text name =>
      rw [extraEntries] at h
      split at h
      · exact fun x hx => (ih h x hx).imp_right hmem
      · rename_i hc
        obtain ⟨rest, hrest, rfl⟩ := Checked.map_eq_accepted_iff.mp h
        refine List.forall_mem_cons.mpr ⟨⟨?_, u, List.mem_cons_self, rfl⟩, ?_⟩
        · exact Bool.eq_false_iff.mpr hc
        · exact fun x hx => (ih hrest x hx).imp_right hmem
    | _ =>
      obtain ⟨_, _, hkey, -, -⟩ := Checked.seq_eq_accepted_iff.mp h
      cases hkey

theorem settled_of_optional_checkAny {default a : Value} (hd : default.settled = default)
    (h : (plain name).optional default checkAny es = .accepted a) : a.settled = a := by
  rcases optional_plain_eq_accepted_iff.mp h with ⟨w, -, hw⟩ | ⟨-, rfl⟩
  · cases hw
    exact Value.settled_settled w
  · exact hd

/-- What is validated from a mapping that declares no field of an anonymous object is normal. -/
theorem isNormal_of_checkPropertyEntries (hdef : es.any declaresField = false)
    (hes : ∀ e ∈ es, e.2.IsLabelledTop) (h : checkPropertyEntries es = .accepted p) :
    p.IsNormal := by
  simp only [checkPropertyEntries, Checked.seq_eq_accepted_iff, Checked.map_eq_accepted_iff] at h
  obtain ⟨_, extra, h, hextra, rfl⟩ := h
  obtain ⟨_, required, h, -, rfl⟩ := h
  obtain ⟨_, generated, h, -, rfl⟩ := h
  obtain ⟨_, id, ⟨type, htype, rfl⟩, hid, rfl⟩ := h
  obtain ⟨xs, hxs, rfl⟩ := Checked.map_eq_accepted_iff.mp hextra
  -- what holds of all extra entries holds of those that remain
  have hextra := fun e (he : e ∈ Entries.ofList xs) =>
    mem_of_extraEntries hxs e (Entries.mem_of_mem_ofList he)
  refine ⟨settled_of_optional_checkAny rfl htype, settled_of_optional_checkAny rfl hid,
    Entries.nodup_keys_foldl_put xs [] List.nodup_nil, ?_, ?_, ?_⟩
  · intro e he f hf hname
    obtain ⟨hclaims, u, hu, -⟩ := hextra e he
    exact List.any_eq_false.mp hclaims f hf ((claims_iff hf).mpr ⟨hname, field?_isSome_of_mem hu⟩)
  · intro e he
    obtain ⟨-, u, -, hu⟩ := hextra e he
    rw [hu, Value.settled_settled]
  · intro e he
    obtain ⟨-, u, hu, hset⟩ := hextra e he
    rw [hset, declaresField_settled (hes _ hu)]
    exact Bool.eq_false_iff.mpr (List.any_eq_false.mp hdef _ hu)

/-- The fields of a normal property are a definition. -/
theorem isPropertyDefinition_fields (h : p.IsNormal) : isPropertyDefinition p.fields = true := by
  have hextra : (p.extra.map fun e => (Value.text e.1, e.2)).any declaresField = false := by
    rw [List.any_eq_false]
    refine List.forall_mem_map.mpr fun e he => ?_
    rw [h.undeclared e he]
    exact Bool.false_ne_true
  have hattribute {name : String} {v : Value} (hn : propertyAttributes.contains name = true) :
      declaresField (.text name, v) = false := by
    simp only [declaresField, hn, Bool.not_true, Bool.false_and]
  unfold isPropertyDefinition Property.fields Value.propertyFields
  rw [List.any_cons, List.any_cons, List.any_cons, List.any_cons, hextra, hattribute rfl,
    hattribute rfl, hattribute rfl, hattribute rfl]
  rfl

theorem extraEntries_fields {all : Mapping} {extra : Extra}
    (hunclaimed : ∀ e ∈ extra, ∀ f ∈ propertyFields, e.1 ≠ f.name)
    (hsettled : ∀ e ∈ extra, e.2.settled = e.2) :
    extraEntries propertyFields all (extra.map fun e => (Value.text e.1, e.2)) =
      .accepted extra := by
  induction extra with
  | nil => rfl
  | cons e extra ih =>
    obtain ⟨hu, hus⟩ := List.forall_mem_cons.mp hunclaimed
    obtain ⟨hs, hss⟩ := List.forall_mem_cons.mp hsettled
    have hclaims : propertyFields.any (Field.claims all e.1) = false := by
      rw [List.any_eq_false]
      exact fun f hf hc => hu f hf ((claims_iff hf).mp hc).1
    rw [List.map_cons, extraEntries, hclaims, if_neg Bool.false_ne_true, ih hus hss, hs]
    rfl

/-- The fields of a property come before its extra ones. -/
theorem extraEntries_propertyFields {all : Mapping} (hall : all = p.fields) :
    extraEntries propertyFields all p.fields =
      extraEntries propertyFields all (p.extra.map fun e => (Value.text e.1, e.2)) := by
  have hclaimed {f : Field} (hf : f ∈ propertyFields) :
      propertyFields.any (Field.claims all f.name) = true := by
    refine List.any_eq_true.mpr ⟨f, hf, (claims_iff hf).mpr ⟨rfl, ?_⟩⟩
    subst hall
    simp only [propertyFields, List.mem_cons, List.not_mem_nil, or_false] at hf
    rcases hf with rfl | rfl | rfl | rfl <;> rfl
  unfold Property.fields Value.propertyFields
  rw [extraEntries, if_pos, extraEntries, if_pos, extraEntries, if_pos, extraEntries, if_pos]
  · exact hclaimed (f := requiredField) (by simp [propertyFields])
  · exact hclaimed (f := generatedField) (by simp [propertyFields])
  · exact hclaimed (f := idField) (by simp [propertyFields])
  · exact hclaimed (f := typeField) (by simp [propertyFields])

/-- The fields of a normal property are validated to it. -/
theorem checkProperty_fields (h : p.IsNormal) : checkProperty (.map p.fields) = .accepted p := by
  have hextra : extraFields propertyFields p.fields = .accepted p.extra := by
    rw [extraFields, extraEntries_propertyFields rfl, extraEntries_fields h.unclaimed h.settled]
    exact congrArg Checked.accepted (Entries.ofList_of_nodup h.names)
  have hentries : propertyEntries (.map p.fields) = p.fields :=
    if_pos (isPropertyDefinition_fields h)
  change checkPropertyEntries (propertyEntries (.map p.fields)) = .accepted p
  rw [hentries]
  have htype : typeField.optional .null checkAny p.fields = .accepted p.type :=
    congrArg Checked.accepted h.type
  have hid : idField.optional (.bool false) checkAny p.fields = .accepted p.id :=
    congrArg Checked.accepted h.id
  have hgenerated : generatedField.optional false checkTruth p.fields = .accepted p.generated := rfl
  have hrequired : requiredField.optional false checkTruth p.fields = .accepted p.required := rfl
  rw [checkPropertyEntries, htype, hid, hgenerated, hrequired]
  exact Checked.seq_eq_accepted_iff.mpr ⟨_, _, rfl, hextra, rfl⟩

/-! ## Values in the place of a property -/

/-- The values that can stand in the place of a property: those whose labels are at collections, and
properties that have been validated from such a value. -/
inductive StandsForProperty : Value → Prop where
  | raw {v : Value} (hl : v.isLabelled = true)
      (hv : ∀ type id generated required extra, v ≠ .property type id generated required extra) :
      StandsForProperty v
  | validated {v : Value} {p : Property} (hv : StandsForProperty v)
      (h : checkProperty v = .accepted p) :
      StandsForProperty (.property p.type p.id p.generated p.required p.extra)

/-- A value that defines no property: no mapping, or one that states no type, or one that declares a
field besides it. -/
def IsNoDefinition (v : Value) : Prop :=
  (∀ type id generated required extra, v ≠ .property type id generated required extra) ∧
    ∀ es, v.exposed = .map es →
      Value.field? "type" es = none ∨ ∃ e ∈ es, declaresField e = true

/-- The property of a type that states nothing else. -/
def Property.ofType (type : Value) : Property := ⟨type, .bool false, false, false, []⟩

theorem propertyEntries_of_isNoDefinition (h : IsNoDefinition v) :
    propertyEntries v = [(.text "type", v)] := by
  unfold propertyEntries
  split
  · rename_i es he
    refine if_neg ?_
    rw [isPropertyDefinition, Bool.and_eq_true, not_and_or]
    rcases h.2 es he with hn | ⟨e, he, hd⟩
    · exact .inl (by rw [hn]; exact Bool.false_ne_true)
    · exact .inr (by rw [List.any_eq_true.mpr ⟨e, he, hd⟩]; exact Bool.false_ne_true)
  · rfl

theorem checkProperty_eq (hv : ∀ type id generated required extra,
    v ≠ .property type id generated required extra) :
    checkProperty v = checkPropertyEntries (propertyEntries v) := by
  rcases isProperty_or v with ⟨_, _, _, _, _, rfl⟩ | ⟨h, -⟩
  · exact absurd rfl (hv _ _ _ _ _)
  · exact h

theorem checkProperty_of_isNoDefinition (h : IsNoDefinition v) :
    checkProperty v = .accepted (.ofType v.settled) := by
  rw [checkProperty_eq h.1, propertyEntries_of_isNoDefinition h]
  rfl

theorem isNormal_of_checkProperty (hv : StandsForProperty v) (h : checkProperty v = .accepted p) :
    p.IsNormal := by
  induction hv with
  | validated _ hp ih =>
    cases h
    exact ih hp
  | @raw v hl hv =>
    by_cases hn : IsNoDefinition v
    · rw [checkProperty_of_isNoDefinition hn] at h
      cases h
      exact ⟨Value.settled_settled v, rfl, List.nodup_nil, nofun, nofun, nofun⟩
    · rw [IsNoDefinition, and_iff_right hv] at hn
      push Not at hn
      obtain ⟨es, he, htype, hfields⟩ := hn
      have hdef : es.any declaresField = false := List.any_eq_false.mpr hfields
      have hentries : propertyEntries v = es := by
        unfold propertyEntries
        rw [he]
        refine if_pos ?_
        rw [isPropertyDefinition, hdef, Option.isSome_iff_ne_none.mpr htype]
        rfl
      rw [checkProperty_eq hv, hentries] at h
      exact isNormal_of_checkPropertyEntries hdef (Value.isLabelledTop_of_exposed hl he) h

/-- What a property is validated to is its normal form: written as a mapping of its fields it is
validated to itself. A value that defines no property is validated to the property of that type,
which is the value as it is unless a collection in it has a label. -/
theorem checkProperty_normal (v : Value) :
    (StandsForProperty v → ∀ p, checkProperty v = .accepted p →
      checkProperty (.map p.fields) = .accepted p) ∧
    (IsNoDefinition v → checkProperty v = .accepted (.ofType v.settled)) ∧
    (IsNoDefinition v → v.isUnlabelled = true →
      checkProperty v =
        .accepted { type := v, id := .bool false, generated := false, required := false
                    extra := [] }) := by
  refine ⟨fun hv _ h => checkProperty_fields (isNormal_of_checkProperty hv h),
    checkProperty_of_isNoDefinition, fun hn hu => ?_⟩
  rw [checkProperty_of_isNoDefinition hn, Value.settled_eq_iff.mpr hu]
  rfl

/-- A place with a field called `type`: as constructors it is the type of a definition with a truth
value in words and two extra fields, and with the names of types it is an anonymous object. -/
theorem checkProperty_normal_place :
    let place : Value :=
      .map [(.text "lat", .function "Number"), (.text "type", .function "String")]
    let named : Value := .map [(.text "lat", .text "Number"), (.text "type", .text "String")]
    let index : Value := .map [(.text "unique", .bool true)]
    let p : Property :=
      ⟨place, .bool false, false, true, [("index", index), ("position", .int 5)]⟩
    checkProperty (.map [(.text "required", .text "Yes"), (.text "index", index),
        (.text "type", place), (.text "position", .int 5)]) = .accepted p ∧
      checkProperty (.map p.fields) = .accepted p ∧
      checkProperty named = .accepted (.ofType named) := by
  intro place named index p
  have hgiven : checkProperty (.map [(.text "required", .text "Yes"), (.text "index", index),
      (.text "type", place), (.text "position", .int 5)]) = .accepted p := by rfl
  refine ⟨hgiven, (checkProperty_normal _).1 (.raw rfl (by simp)) p hgiven,
    (checkProperty_normal named).2.2 ⟨nofun, ?_⟩ rfl⟩
  rintro _ ⟨⟩
  exact .inr ⟨_, List.mem_cons_self, by decide⟩

end Descriptor

end RemoteBindings
