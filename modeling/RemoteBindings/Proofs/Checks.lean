import Mathlib.Data.List.Forall2
import RemoteBindings.Descriptor.Validation

/-!
# Outcomes of checks

A check of several fields accepts exactly if each of them is accepted, and gives the part made of
what they give (`Checked.seq_eq_accepted_iff`); a check of a list accepts its items one by one
(`forall₂_of_checkList`). So a class has the name that it states, and a class given by name that
states no other one is called by that name (`names_of_build_byName`).
-/

namespace RemoteBindings

/-! ## Fields of mappings -/

namespace Value

variable {name : String} {k v : Value} {es : List (Value × Value)}

/-- Nothing but itself equals a text. -/
theorem text_beq_iff : (text name == v) = true ↔ v = text name := by
  change same (text name) v = true ↔ v = text name
  rw [eq_comm (a := v)]
  cases v <;> simp [same, sameNumber?, integer?]

theorem beq_text_iff : (v == text name) = true ↔ v = text name := by
  change same v (text name) = true ↔ v = text name
  cases v <;> simp [same, sameNumber?, integer?]

theorem field?_cons_of_ne (h : k ≠ text name) : field? name ((k, v) :: es) = field? name es := by
  cases k with
  | text s => rw [field?, if_neg fun hs => h (congrArg text hs)]
  | _ => rfl

theorem field?_cons_eq_none_iff :
    field? name ((k, v) :: es) = none ↔ k ≠ text name ∧ field? name es = none := by
  cases k with
  | text s => by_cases h : s = name <;> simp [field?, h]
  | _ => simp [field?]

/-- What is exposed as a mapping is one, though it may hold itself. -/
theorem eq_or_knot_of_exposed (h : v.exposed = map es) :
    v = map es ∨ ∃ label inner, v = knot label (map inner) := by
  cases v with
  | map entries => exact .inl h
  | knot label content =>
    cases content with
    | map inner => exact .inr ⟨label, inner, rfl⟩
    | again l isMapping =>
      rw [exposed, restore] at h
      split at h <;> cases h
    | knot l content =>
      rw [exposed, restore] at h
      split at h <;> cases h
    | _ => cases h
  | _ => cases h

/-- Entries put under other keys leave the first one in its place. -/
theorem field?_foldl_put (h : field? name es = none) (acc : List (Value × Value)) :
    field? name (es.foldl (fun acc e => Entries.put e.1 e.2 acc) ((text name, v) :: acc)) =
      some v := by
  induction es generalizing acc with
  | nil => simp [field?]
  | cons e es ih =>
    obtain ⟨hk, hes⟩ := field?_cons_eq_none_iff.mp h
    rw [List.foldl_cons, Entries.put, if_neg (mt text_beq_iff.mp hk)]
    exact ih hes _

end Value

namespace Descriptor

variable {α β : Type}

/-! ## Outcomes -/

namespace Checked

theorem seq_eq_accepted_iff {f : Checked (α → β)} {x : Checked α} {b : β} :
    f <*> x = accepted b ↔ ∃ g a, f = accepted g ∧ x = accepted a ∧ g a = b := by
  change app f x = accepted b ↔ _
  cases f <;> cases x <;> simp [app]

theorem map_eq_accepted_iff {f : α → β} {x : Checked α} {b : β} :
    f <$> x = accepted b ↔ ∃ a, x = accepted a ∧ f a = b := by
  change map f x = accepted b ↔ _
  cases x <;> simp [map]

theorem under_eq_accepted_iff {step : Step} {x : Checked α} {a : α} :
    x.under step = accepted a ↔ x = accepted a := by
  cases x <;> simp [under]

end Checked

theorem forall₂_of_checkItems {check : Check α} {n : Nat} {vs : List Value} {as : List α}
    (h : checkItems check n vs = .accepted as) :
    List.Forall₂ (fun v a => check v = .accepted a) vs as := by
  induction vs generalizing n as with
  | nil =>
    cases h
    exact .nil
  | cons v vs ih =>
    rw [checkItems] at h
    obtain ⟨g, rest, hg, hrest, rfl⟩ := Checked.seq_eq_accepted_iff.mp h
    obtain ⟨a, ha, rfl⟩ := Checked.map_eq_accepted_iff.mp hg
    exact .cons (Checked.under_eq_accepted_iff.mp ha) (ih hrest)

/-- Each part of a list is what one of the items is accepted as. -/
theorem exists_of_checkItems {check : Check α} {n : Nat} {vs : List Value} {as : List α}
    (h : checkItems check n vs = .accepted as) {a : α} (ha : a ∈ as) :
    ∃ v ∈ vs, check v = .accepted a := by
  have hitems := forall₂_of_checkItems h
  clear h
  induction hitems with
  | nil => cases ha
  | cons hv _ ih =>
    rcases List.mem_cons.mp ha with rfl | ha
    · exact ⟨_, List.mem_cons_self, hv⟩
    · obtain ⟨v, hmem, hv⟩ := ih ha
      exact ⟨v, List.mem_cons_of_mem _ hmem, hv⟩

theorem forall₂_of_checkList {check : Check α} {vs : List Value} {as : List α}
    (h : checkList check (.list vs) = .accepted as) :
    List.Forall₂ (fun v a => check v = .accepted a) vs as :=
  forall₂_of_checkItems h

/-! ## Classes -/

def modelClassFields : List Field :=
  [nameField, pluralNameField, ctorField, isUserField, propertiesField, settingsField, methodsField,
    scopeTargetsField]

/-- Each part of a class is what the check of its own field accepts. -/
structure AcceptedParts (es : Mapping) (c : ModelClass) : Prop where
  name : nameField.required checkText es = .accepted c.name
  pluralName : pluralNameField.optional none checkOptionalText es = .accepted c.pluralName
  ctor : ctorField.optional none checkOptionalCtor es = .accepted c.ctor
  isUser : isUserField.optional false checkTruth es = .accepted c.isUser
  properties : propertiesField.optional []
    (fun v => checkMapping checkProperty (emptyAsMapping v)) es = .accepted c.properties
  settings : settingsField.optional Settings.default
    (fun v => checkSettings (emptyAsMapping v)) es = .accepted c.settings
  methods : methodsField.optional [] (checkList checkMethod) es = .accepted c.methods
  scopeTargets : scopeTargetsField.optional []
    (fun v => checkMapping checkOptionalText (emptyAsMapping v)) es = .accepted c.scopeTargets

/-- An accepted class is a mapping of accepted parts. -/
theorem parts_of_checkModelClass {v : Value} {c : ModelClass}
    (h : checkModelClass v = .accepted c) : ∃ es, v.exposed = .map es ∧ AcceptedParts es c := by
  unfold checkModelClass checkPart at h
  split at h
  case h_2 => cases h
  case h_1 es he =>
    simp only [Checked.seq_eq_accepted_iff, Checked.map_eq_accepted_iff] at h
    -- the check of the last field is the outermost one
    obtain ⟨_, _, h, -, rfl⟩ := h
    obtain ⟨_, _, h, hscopeTargets, rfl⟩ := h
    obtain ⟨_, _, h, hmethods, rfl⟩ := h
    obtain ⟨_, _, h, hsettings, rfl⟩ := h
    obtain ⟨_, _, h, hproperties, rfl⟩ := h
    obtain ⟨_, _, h, hisUser, rfl⟩ := h
    obtain ⟨_, _, h, hctor, rfl⟩ := h
    obtain ⟨_, _, h, hpluralName, rfl⟩ := h
    obtain ⟨_, hname, rfl⟩ := h
    exact ⟨es, he, hname, hpluralName, hctor, hisUser, hproperties, hsettings, hmethods,
      hscopeTargets⟩

/-- A class given by name is called so unless it states another name. -/
theorem name_of_checkModelClass_namedClass {name : String} {fields : Mapping} {c : ModelClass}
    (hn : Value.field? "name" fields = none)
    (h : checkModelClass (namedClass (.text name, .map fields)) = .accepted c) :
    c.name = name := by
  obtain ⟨es, he, hparts⟩ := parts_of_checkModelClass h
  have hname := hparts.name
  cases he
  have hf : Value.field? "name" (Entries.ofList ((.text "name", .text name) :: fields)) =
      some (.text name) := Value.field?_foldl_put hn []
  have hl : nameField.locate? (Entries.ofList ((.text "name", .text name) :: fields)) =
      some ("name", .text name) := by
    rw [Field.locate?]
    simp only [nameField, plain, hf]
  rw [Field.required, hl] at hname
  cases hname
  rfl

theorem names_of_checkList_namedClass {named : Entries String Mapping} {classes : List ModelClass}
    (hn : ∀ e ∈ named, Value.field? "name" e.2 = none)
    (h : checkList checkModelClass
      (.list (named.map fun e => namedClass (.text e.1, .map e.2))) = .accepted classes) :
    classes.map ModelClass.name = named.keys := by
  have hitems := forall₂_of_checkList h
  rw [List.forall₂_map_left_iff] at hitems
  clear h
  induction hitems with
  | nil => rfl
  | cons hc _ ih =>
    rw [List.map_cons, name_of_checkModelClass_namedClass (hn _ List.mem_cons_self) hc,
      ih fun e he => hn e (List.mem_cons_of_mem _ he)]
    rfl

theorem checkService_of_build {v : Value} {service : Service} (h : build v = .ok service) :
    checkService v = .accepted service := by
  unfold build at h
  split at h
  · cases h
  · split at h
    · rename_i hc
      cases h
      exact hc
    · cases h

/-- A service as the mapping of its classes by name. -/
def byName (named : Entries String Mapping) : Value :=
  .map [(.text "models", .map (named.map fun e => (.text e.1, .map e.2)))]

/-- Classes given by name are called so as long as none of them states another name. -/
theorem names_of_build_byName {named : Entries String Mapping} {service : Service}
    (hn : ∀ e ∈ named, Value.field? "name" e.2 = none)
    (h : build (byName named) = .ok service) :
    service.models.map ModelClass.name = named.keys := by
  obtain ⟨_, _, hm, -, rfl⟩ := Checked.seq_eq_accepted_iff.mp (checkService_of_build h)
  obtain ⟨classes, hlist, rfl⟩ := Checked.map_eq_accepted_iff.mp hm
  have hclasses : checkList checkModelClass
      (.list ((named.map fun e => (Value.text e.1, Value.map e.2)).map namedClass)) =
        .accepted classes := Checked.under_eq_accepted_iff.mp hlist
  rw [List.map_map] at hclasses
  exact names_of_checkList_namedClass hn hclasses

end Descriptor

end RemoteBindings
