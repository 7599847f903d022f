import RemoteBindings.Proofs.GivenFields

/-!
# Collections given as null

`ServiceGivesNull` relates a service to the same one with a collection given as null, anywhere in
it: in the service, in one of its classes (`ClassGivesNull`), or in the settings, the constructor or
a method of a class. Each check on the way to that place carries its new issues on
(`gains_checkModelClass`, `gains_classes`, `gains_checkService`), and of all collections only the
methods of a class have any, because they alone are checked as they are given. So
`validatedAlike_iff` tells the collections for which null and absence are the same.
-/

namespace RemoteBindings.Descriptor

/-- The fields of a descriptor that hold collections. -/
inductive Collection where
  | models
  | properties
  | methods
  | scopeTargets
  | relations
  | acls
  | methodAccepts
  | returns
  | ctorAccepts
deriving DecidableEq

/-! ## Places -/

/-- One part is the other with a field given as null that the other leaves out. -/
def GivesNull (f : Field) (v w : Value) : Prop :=
  ∃ es es' n, v.exposed = .map es ∧ w.exposed = .map es' ∧ f.hasName n ∧ f.locate? es = none ∧
    Changes n none .null es es'

/-- Two mappings that differ in the value of one field. -/
def InField (n : String) (R : Value → Value → Prop) (v w : Value) : Prop :=
  ∃ es es' a b, v.exposed = .map es ∧ w.exposed = .map es' ∧ Changes n (some a) b es es' ∧ R a b

/-- Two lists that differ in one item. -/
def InItem (R : Value → Value → Prop) (v w : Value) : Prop :=
  ∃ pre a b post, itemsOf? v = some (pre ++ a :: post) ∧ itemsOf? w = some (pre ++ b :: post) ∧
    R a b

/-- Two mappings that differ in the value of one entry, whatever its key is. -/
def InEntry (R : Value → Value → Prop) (v w : Value) : Prop :=
  ∃ pre k a b post, v.exposed = .map (pre ++ (k, a) :: post) ∧
    w.exposed = .map (pre ++ (k, b) :: post) ∧ R a b

/-- One class is the other with a collection given as null that the other leaves out. -/
def ClassGivesNull : Collection → Value → Value → Prop
  | .models => fun _ _ => False
  | .properties => GivesNull propertiesField
  | .methods => GivesNull methodsField
  | .scopeTargets => GivesNull scopeTargetsField
  | .relations => InField "settings" (GivesNull relationsField)
  | .acls => InField "settings" (GivesNull aclsField)
  | .methodAccepts => InField "methods" (InItem (GivesNull acceptsField))
  | .returns => InField "methods" (InItem (GivesNull returnsField))
  | .ctorAccepts => InField "ctor" (GivesNull acceptsField)

/-- One service is the other with a collection given as null that the other leaves out. Classes are
listed or given by name, and a bare list of them is a service as well. -/
inductive ServiceGivesNull : Collection → Value → Value → Prop
  | models {v w : Value} : GivesNull modelsField v w → ServiceGivesNull .models v w
  | listed {c : Collection} {v w : Value} :
    InField "models" (InItem (ClassGivesNull c)) v w → ServiceGivesNull c v w
  | byName {c : Collection} {v w : Value} :
    InField "models" (InEntry (ClassGivesNull c)) v w → ServiceGivesNull c v w
  | bare {c : Collection} {v w : Value} {pre post : List Value} {a b : Value} :
    v.exposed = .list (pre ++ a :: post) → w.exposed = .list (pre ++ b :: post) →
      ClassGivesNull c a b → ServiceGivesNull c v w

/-- The issue with a collection given as null at the end of a path. -/
def nullIssues (c : Collection) (path : List Step) : List Issue :=
  if c = .methods then [⟨path, .notList, .null⟩] else []

variable {α : Type} {c : Collection} {f : Field} {n : String} {v w : Value} {v? : Option Value}
  {es es' : Mapping} {default : α} {check : Check α} {new : List Issue} {path : List Step}

theorem beneath_nullIssues (step : Step) :
    (nullIssues c path).map (Issue.beneath step) = nullIssues c (step :: path) := by
  unfold nullIssues
  split <;> rfl

/-! ## Fields of a part -/

/-- Of fields with different names, one alone is given under a name. -/
theorem Field.onlyAs_of_names {fields : List Field} (hf : f.OnlyAs n es)
    (h : ∀ g ∈ fields, g.hasName n → g.preferred = f.preferred ∧ g.name = f.name) :
    ∀ g ∈ fields, g.hasName n → g.OnlyAs n es := by
  intro g hg hgn
  obtain ⟨preferred, name⟩ := g
  obtain ⟨rfl, rfl⟩ := h _ hg hgn
  exact hf

/-- The new issues of a field in a part where one name has changed. -/
def issuesOf (n : String) (new : List Issue) (f : Field) : List Issue :=
  if f.hasName n then new.map (Issue.beneath (.key n)) else []

theorem Changes.gains_field (hc : Changes n v? w es es') (h : f.hasName n → f.OnlyAs n es)
    (hw : f.hasName n → (v?.elim (.accepted default) check).Gains new (check w)) :
    (f.optional default check es).Gains (issuesOf n new f) (f.optional default check es') := by
  unfold issuesOf
  split
  · rename_i hn
    exact hc.gains_optional (h hn) (hw hn)
  · rename_i hn
    exact hc.gains_optional_of_not hn

/-- A field that takes null for its default sees no difference. -/
theorem Changes.gains_null (hc : Changes n none .null es es') (h : f.hasName n → f.OnlyAs n es)
    (hnull : check .null = .accepted default) :
    (f.optional default check es).Gains [] (f.optional default check es') := by
  have hfield : (f.optional default check es).Gains (issuesOf n [] f)
      (f.optional default check es') := hc.gains_field h fun _ => .of_eq hnull
  rwa [issuesOf, List.map_nil, ite_self] at hfield

/-- In a part whose fields have different names, a null is the matter of its own field alone. -/
theorem GivesNull.exists_changes {fields : List Field} (h : GivesNull f v w) (hf : f ∈ fields)
    (hnames : ∀ n ∈ [f.preferred, f.name], ∀ g ∈ fields, g.hasName n →
      g.preferred = f.preferred ∧ g.name = f.name) :
    ∃ es es' n, v.exposed = .map es ∧ w.exposed = .map es' ∧ f.hasName n ∧
      Changes n none .null es es' ∧ (∀ g ∈ fields, g.hasName n → g.OnlyAs n es) ∧
      extraFields fields es' = extraFields fields es := by
  obtain ⟨es, es', n, hv, hw, hn, hnone, hc⟩ := h
  have honly : ∀ g ∈ fields, g.hasName n → g.OnlyAs n es :=
    Field.onlyAs_of_names (Field.onlyAs_of_locate? hn hnone)
      (hnames n (by rcases hn with rfl | rfl <;> simp))
  exact ⟨es, es', n, hv, hw, hn, hc, honly, hc.extraFields ⟨f, hf, hn⟩ honly⟩

/-! ## Parts of a class -/

def ctorFields : List Field := [acceptsField, httpField]

theorem gains_checkCtor (h : GivesNull acceptsField v w) :
    (checkCtor v).Gains [] (checkCtor w) := by
  have hf : acceptsField ∈ ctorFields := by simp [ctorFields]
  obtain ⟨es, es', n, hv, hw, hn, hc, honly, hextra⟩ := h.exists_changes hf (by decide)
  obtain rfl : n = "accepts" := hn.elim id id
  rw [checkCtor, checkPart, checkPart, hv, hw]
  refine .seq_nil (.seq_nil (.map _ ?_) ?_) (.of_eq hextra)
  · exact hc.gains_null (honly acceptsField hf) rfl
  · exact hc.gains_optional_of_not (by decide)

def settingsFields : List Field := [baseField, relationsField, aclsField, validationsField]

theorem gains_checkSettings (hf : f = relationsField ∨ f = aclsField) (h : GivesNull f v w) :
    (checkSettings v).Gains [] (checkSettings w) := by
  have hmem : f ∈ settingsFields := by rcases hf with rfl | rfl <;> simp [settingsFields]
  obtain ⟨es, es', n, hv, hw, hn, hc, honly, hextra⟩ :=
    h.exists_changes hmem (by rcases hf with rfl | rfl <;> decide)
  have hothers : ¬ baseField.hasName n ∧ ¬ validationsField.hasName n := by
    rcases hf with rfl | rfl <;> obtain rfl := hn.elim id id <;> decide
  rw [checkSettings, checkPart, checkPart, hv, hw]
  refine .seq_nil (.seq_nil (.seq_nil (.seq_nil (.map _ ?_) ?_) ?_) ?_) (.of_eq hextra)
  · exact hc.gains_optional_of_not hothers.1
  · exact hc.gains_null (honly relationsField (by simp [settingsFields])) rfl
  · exact hc.gains_null (honly aclsField (by simp [settingsFields])) rfl
  · exact hc.gains_optional_of_not hothers.2

def methodFields : List Field :=
  [nameField, acceptsField, returnsField, isStaticField, httpField, deprecatedField, internalField,
    descriptionField]

theorem gains_checkMethod (hf : f = acceptsField ∨ f = returnsField) (h : GivesNull f v w) :
    (checkMethod v).Gains [] (checkMethod w) := by
  have hmem : f ∈ methodFields := by rcases hf with rfl | rfl <;> simp [methodFields]
  obtain ⟨es, es', n, hv, hw, hn, hc, honly, hextra⟩ :=
    h.exists_changes hmem (by rcases hf with rfl | rfl <;> decide)
  have hothers : ∀ g ∈ [nameField, isStaticField, httpField, deprecatedField, internalField,
      descriptionField], ¬ g.hasName n := by
    rcases hf with rfl | rfl <;> obtain rfl := hn.elim id id <;> decide
  simp only [List.forall_mem_cons] at hothers
  obtain ⟨hname, hstatic, hhttp, hdeprecated, hinternal, hdescription, -⟩ := hothers
  rw [checkMethod, checkPart, checkPart, hv, hw]
  refine .seq_nil (.seq_nil (.seq_nil (.seq_nil (.seq_nil (.seq_nil (.seq_nil (.seq_nil (.map _ ?_)
    ?_) ?_) ?_) ?_) ?_) ?_) ?_) (.of_eq hextra)
  · exact hc.gains_required hname
  · exact hc.gains_null (honly acceptsField (by simp [methodFields])) rfl
  · exact hc.gains_null (honly returnsField (by simp [methodFields])) rfl
  · exact hc.gains_optional_of_not hstatic
  · exact hc.gains_optional_of_not hhttp
  · exact hc.gains_optional_of_not hdeprecated
  · exact hc.gains_optional_of_not hinternal
  · exact hc.gains_optional_of_not hdescription

/-! ## Classes -/

/-- The fields of a class that hold a collection or a part with one. -/
def collectionFields : List Field :=
  [ctorField, propertiesField, settingsField, methodsField, scopeTargetsField]

/-- The new issues with a value that takes the place of another one, or of nothing, in the field of
a class with the given name. -/
structure FieldGains (n : String) (new : List Issue) (v? : Option Value) (w : Value) : Prop where
  ctor : ctorField.hasName n →
    (v?.elim (.accepted none) checkOptionalCtor).Gains new (checkOptionalCtor w) := by
    simp [Field.hasName, ctorField, plain]
  properties : propertiesField.hasName n →
    (v?.elim (.accepted []) fun v => checkMapping checkProperty (emptyAsMapping v)).Gains new
      (checkMapping checkProperty (emptyAsMapping w)) := by
    simp [Field.hasName, propertiesField, plain]
  settings : settingsField.hasName n →
    (v?.elim (.accepted Settings.default) fun v => checkSettings (emptyAsMapping v)).Gains new
      (checkSettings (emptyAsMapping w)) := by
    simp [Field.hasName, settingsField, plain]
  methods : methodsField.hasName n →
    (v?.elim (.accepted []) (checkList checkMethod)).Gains new (checkList checkMethod w) := by
    simp [Field.hasName, methodsField, plain]
  scopeTargets : scopeTargetsField.hasName n →
    (v?.elim (.accepted []) fun v => checkMapping checkOptionalText (emptyAsMapping v)).Gains new
      (checkMapping checkOptionalText (emptyAsMapping w)) := by
    simp [Field.hasName, scopeTargetsField]

/-- A class gains the issues of the field that has changed. -/
theorem gains_checkModelClass {u u' : Value} (hu : u.exposed = .map es)
    (hu' : u'.exposed = .map es') (hc : Changes n v? w es es') (hf : f ∈ collectionFields)
    (hn : f.OnlyAs n es) (h : FieldGains n new v? w) :
    (checkModelClass u).Gains (new.map (Issue.beneath (.key n))) (checkModelClass u') := by
  simp only [collectionFields, List.mem_cons, List.not_mem_nil, or_false] at hf
  have hname := hn.hasName
  have honly : ∀ g ∈ modelClassFields, g.hasName n → g.OnlyAs n es := by
    refine Field.onlyAs_of_names hn ?_
    rcases hf with rfl | rfl | rfl | rfl | rfl <;> rcases hname with rfl | rfl <;> decide
  have hextra := hc.extraFields
    ⟨f, by rcases hf with rfl | rfl | rfl | rfl | rfl <;> simp [modelClassFields], hname⟩ honly
  have hothers : ¬ nameField.hasName n ∧ ¬ pluralNameField.hasName n ∧ ¬ isUserField.hasName n := by
    rcases hf with rfl | rfl | rfl | rfl | rfl <;> rcases hname with rfl | rfl <;> decide
  -- the issues of all fields in the order of the checks: those of the one with the name
  have hissues : new.map (Issue.beneath (.key n)) =
      [] ++ [] ++ issuesOf n new ctorField ++ [] ++ issuesOf n new propertiesField ++
        issuesOf n new settingsField ++ issuesOf n new methodsField ++
        issuesOf n new scopeTargetsField ++ [] := by
    rcases hf with rfl | rfl | rfl | rfl | rfl <;> rcases hname with rfl | rfl <;>
      simp [issuesOf, Field.hasName, ctorField, propertiesField, settingsField, methodsField,
        scopeTargetsField, plain]
  rw [hissues, checkModelClass, checkPart, checkPart, hu, hu']
  refine .seq (.seq (.seq (.seq (.seq (.seq (.seq (.seq (.map _ ?_) ?_) ?_) ?_) ?_) ?_) ?_) ?_)
    (.of_eq hextra)
  · exact hc.gains_required hothers.1
  · exact hc.gains_optional_of_not hothers.2.1
  · exact hc.gains_field (honly ctorField (by simp [modelClassFields])) h.ctor
  · exact hc.gains_optional_of_not hothers.2.2
  · exact hc.gains_field (honly propertiesField (by simp [modelClassFields])) h.properties
  · exact hc.gains_field (honly settingsField (by simp [modelClassFields])) h.settings
  · exact hc.gains_field (honly methodsField (by simp [modelClassFields])) h.methods
  · exact hc.gains_field (honly scopeTargetsField (by simp [modelClassFields])) h.scopeTargets

theorem exposed_emptyAsMapping (h : v.exposed = .map es) :
    (emptyAsMapping v).exposed = .map es := by
  unfold emptyAsMapping
  split
  · exact h
  · rename_i hfalsy
    rcases Value.eq_or_knot_of_exposed h with rfl | ⟨label, inner, rfl⟩
    · cases es with
      | nil => rfl
      | cons => exact absurd rfl hfalsy
    · cases inner with
      | nil => exact h
      | cons => exact absurd rfl hfalsy

theorem GivesNull.emptyAsMapping (h : GivesNull f v w) :
    GivesNull f (emptyAsMapping v) (emptyAsMapping w) := by
  obtain ⟨es, es', n, hv, hw, hrest⟩ := h
  exact ⟨es, es', n, exposed_emptyAsMapping hv, exposed_emptyAsMapping hw, hrest⟩

theorem checkOptionalCtor_of_exposed (h : v.exposed = .map es) :
    checkOptionalCtor v = some <$> checkCtor v := by
  cases v with
  | map | knot => rfl
  | _ => cases h

theorem gains_checkOptionalCtor (h : GivesNull acceptsField v w) :
    (checkOptionalCtor v).Gains [] (checkOptionalCtor w) := by
  have hctor := gains_checkCtor h
  obtain ⟨es, es', n, hv, hw, -⟩ := h
  rw [checkOptionalCtor_of_exposed hv, checkOptionalCtor_of_exposed hw]
  exact hctor.map some

theorem gains_methods (hf : f = acceptsField ∨ f = returnsField) (h : InItem (GivesNull f) v w) :
    (checkList checkMethod v).Gains [] (checkList checkMethod w) := by
  obtain ⟨pre, a, b, post, hv, hw, hab⟩ := h
  exact gains_checkList (gains_checkMethod hf hab) hv hw

theorem gains_of_givesNull (hf : f ∈ collectionFields) (h : GivesNull f v w)
    (hnull : ∀ n, f.hasName n → FieldGains n new none .null) :
    ∃ n, f.hasName n ∧
      (checkModelClass v).Gains (new.map (Issue.beneath (.key n))) (checkModelClass w) := by
  obtain ⟨es, es', n, hv, hw, hn, hnone, hc⟩ := h
  exact ⟨n, hn, gains_checkModelClass hv hw hc hf (Field.onlyAs_of_locate? hn hnone) (hnull n hn)⟩

theorem gains_of_inField {R : Value → Value → Prop} (hf : plain n ∈ collectionFields)
    (h : InField n R v w) (hR : ∀ a b, R a b → FieldGains n [] (some a) b) :
    (checkModelClass v).Gains [] (checkModelClass w) := by
  obtain ⟨es, es', a, b, hv, hw, hc, hab⟩ := h
  exact gains_checkModelClass hv hw hc hf (Field.onlyAs_plain es) (hR a b hab)

/-- With a collection given as null a class is validated alike, unless it is that of the methods. -/
theorem gains_of_classGivesNull (h : ClassGivesNull c v w) :
    ∃ path, (checkModelClass v).Gains (nullIssues c path) (checkModelClass w) := by
  have hctor : plain "ctor" ∈ collectionFields := by simp [collectionFields, ctorField]
  have hsettings : plain "settings" ∈ collectionFields := by simp [collectionFields, settingsField]
  have hmethods : plain "methods" ∈ collectionFields := by simp [collectionFields, methodsField]
  cases c with
  | models => exact h.elim
  | properties =>
    obtain ⟨n, -, hclass⟩ := gains_of_givesNull (by simp [collectionFields]) h fun n hn => by
      obtain rfl : n = "properties" := hn.elim id id
      exact { properties := fun _ => .refl _ }
    exact ⟨[], hclass⟩
  | scopeTargets =>
    obtain ⟨n, -, hclass⟩ := gains_of_givesNull (by simp [collectionFields]) h fun n hn => by
      have hn : n = "scopeTargets" ∨ n = "scope_targets" := hn
      rcases hn with rfl | rfl <;> exact { scopeTargets := fun _ => .refl _ }
    exact ⟨[], hclass⟩
  | methods =>
    obtain ⟨n, hn, hclass⟩ := gains_of_givesNull (by simp [collectionFields]) h fun n hn => by
      obtain rfl : n = "methods" := hn.elim id id
      have hlist : (Checked.accepted []).Gains [⟨[], .notList, .null⟩]
          (checkList checkMethod .null) := ⟨.more .nil, rfl⟩
      exact { methods := fun _ => hlist }
    obtain rfl : n = "methods" := hn.elim id id
    exact ⟨[.key "methods"], hclass⟩
  | relations =>
    exact ⟨[], gains_of_inField hsettings h fun a b hab =>
      { settings := fun _ => gains_checkSettings (.inl rfl) hab.emptyAsMapping }⟩
  | acls =>
    exact ⟨[], gains_of_inField hsettings h fun a b hab =>
      { settings := fun _ => gains_checkSettings (.inr rfl) hab.emptyAsMapping }⟩
  | methodAccepts =>
    exact ⟨[], gains_of_inField hmethods h fun a b hab =>
      { methods := fun _ => gains_methods (.inl rfl) hab }⟩
  | returns =>
    exact ⟨[], gains_of_inField hmethods h fun a b hab =>
      { methods := fun _ => gains_methods (.inr rfl) hab }⟩
  | ctorAccepts =>
    exact ⟨[], gains_of_inField hctor h fun a b hab =>
      { ctor := fun _ => gains_checkOptionalCtor hab }⟩

/-! ## Classes by name -/

theorem field?_ofList_cons {m : String} {k u : Value} (hk : k ≠ .text m)
    (h : Value.field? m es = none) : Value.field? m (Entries.ofList ((k, u) :: es)) = none := by
  have hfold := Value.field?_foldl_put_of_ne h [(k, u)]
  rwa [Value.field?_cons_of_ne hk] at hfold

theorem namedClass_of_exposed (k : Value) (h : v.exposed = .map es) :
    namedClass (k, v) = .map (Entries.ofList ((.text "name", k) :: es)) := by
  simp only [namedClass, h]
  rfl

theorem GivesNull.namedClass (k : Value) (hf : ¬ f.hasName "name") (h : GivesNull f v w) :
    GivesNull f (namedClass (k, v)) (namedClass (k, w)) := by
  obtain ⟨es, es', n, hv, hw, hn, hnone, hc⟩ := h
  have hname (m : String) (hm : f.hasName m) : Value.text "name" ≠ .text m := by
    intro h
    exact hf (Value.text.inj h ▸ hm)
  rw [namedClass_of_exposed k hv, namedClass_of_exposed k hw]
  rw [Field.locate?_eq_none_iff] at hnone
  have hnone' : f.locate? (Entries.ofList ((.text "name", k) :: es)) = none :=
    Field.locate?_eq_none_iff.mpr fun m hm => field?_ofList_cons (hname m hm) (hnone m hm)
  exact ⟨_, _, n, rfl, rfl, hn, hnone', (hc.cons (hname n hn)).ofList⟩

theorem InField.namedClass {R : Value → Value → Prop} (k : Value) (hn : "name" ≠ n)
    (h : InField n R v w) : InField n R (namedClass (k, v)) (namedClass (k, w)) := by
  obtain ⟨es, es', a, b, hv, hw, hc, hab⟩ := h
  rw [namedClass_of_exposed k hv, namedClass_of_exposed k hw]
  exact ⟨_, _, a, b, rfl, rfl, (hc.cons fun h => hn (Value.text.inj h)).ofList, hab⟩

theorem ClassGivesNull.namedClass (k : Value) (h : ClassGivesNull c v w) :
    ClassGivesNull c (namedClass (k, v)) (namedClass (k, w)) := by
  cases c with
  | models => exact h
  | properties | methods | scopeTargets => exact GivesNull.namedClass k (by decide) h
  | relations | acls | methodAccepts | returns | ctorAccepts =>
    exact InField.namedClass k (by decide) h

/-! ## Services -/

theorem gains_checkService {u u' : Value} (hu : (serviceEntries u).exposed = .map es)
    (hu' : (serviceEntries u').exposed = .map es') (hc : Changes "models" v? w es es')
    (h : (v?.elim (.accepted []) fun v => checkList checkModelClass (classList v)).Gains new
      (checkList checkModelClass (classList w))) :
    (checkService u).Gains (new.map (Issue.beneath (.key "models"))) (checkService u') := by
  have honly : ∀ g ∈ [modelsField], g.hasName "models" → g.OnlyAs "models" es :=
    Field.onlyAs_of_names (f := modelsField) (Field.onlyAs_plain es) (by decide)
  have hextra := hc.extraFields ⟨modelsField, List.mem_singleton_self _, .inl rfl⟩ honly
  rw [checkService, checkPart, checkService, checkPart, hu, hu']
  have hmodels := (hc.gains_optional (Field.onlyAs_plain es) h).map Service.mk
  have hall := hmodels.seq (.of_eq hextra)
  rwa [List.append_nil] at hall

/-- A list with items is a list of classes. -/
theorem itemsOf?_classList {items : List Value} (h : itemsOf? v = some items) (hne : items ≠ []) :
    itemsOf? (classList v) = some items := by
  unfold classList
  rw [itemsOf?] at h
  cases he : v.exposed with
  | list items' | tuple items' | set items' =>
    rw [he] at h
    obtain rfl := Option.some.inj h
    cases items' with
    | nil => exact absurd rfl hne
    | cons => rfl
  | endpoint | property =>
    rw [he] at h
    exact h
  | _ =>
    rw [he] at h
    cases h

theorem gains_classes (h : InItem (ClassGivesNull c) v w ∨ InEntry (ClassGivesNull c) v w) :
    ∃ path, (checkList checkModelClass (classList v)).Gains (nullIssues c path)
      (checkList checkModelClass (classList w)) := by
  rcases h with ⟨pre, a, b, post, hv, hw, hab⟩ | ⟨pre, k, a, b, post, hv, hw, hab⟩
  · obtain ⟨path, hpath⟩ := gains_of_classGivesNull hab
    exact ⟨_, beneath_nullIssues _ ▸ gains_checkList hpath (itemsOf?_classList hv (by simp))
      (itemsOf?_classList hw (by simp))⟩
  · obtain ⟨path, hpath⟩ := gains_of_classGivesNull (hab.namedClass k)
    have hitems (x : Value) : itemsOf? (.list ((pre ++ (k, x) :: post).map namedClass)) =
        some (pre.map namedClass ++ namedClass (k, x) :: post.map namedClass) := by
      rw [List.map_append, List.map_cons]
      rfl
    rw [classList, classList, hv, hw]
    exact ⟨_, beneath_nullIssues _ ▸ gains_checkList hpath (hitems a) (hitems b)⟩

theorem serviceEntries_of_exposed (h : v.exposed = .map es) :
    (serviceEntries v).exposed = .map es := by
  rw [serviceEntries, h]
  rfl

theorem gains_of_serviceGivesNull (h : ServiceGivesNull c v w) :
    ∃ path, (checkService v).Gains (nullIssues c path) (checkService w) := by
  cases h with
  | models h =>
    obtain ⟨es, es', n, hv, hw, hn, hnone, hc⟩ := h
    obtain rfl : n = "models" := hn.elim id id
    exact ⟨[], gains_checkService (serviceEntries_of_exposed hv) (serviceEntries_of_exposed hw) hc
      (.refl _)⟩
  | listed h =>
    obtain ⟨es, es', a, b, hv, hw, hc, hab⟩ := h
    obtain ⟨path, hpath⟩ := gains_classes (.inl hab)
    exact ⟨_, beneath_nullIssues _ ▸
      gains_checkService (serviceEntries_of_exposed hv) (serviceEntries_of_exposed hw) hc hpath⟩
  | byName h =>
    obtain ⟨es, es', a, b, hv, hw, hc, hab⟩ := h
    obtain ⟨path, hpath⟩ := gains_classes (.inr hab)
    exact ⟨_, beneath_nullIssues _ ▸
      gains_checkService (serviceEntries_of_exposed hv) (serviceEntries_of_exposed hw) hc hpath⟩
  | bare hv hw hab =>
    rename_i pre post a b
    obtain ⟨path, hpath⟩ := gains_classes (v := .list (pre ++ a :: post))
      (w := .list (pre ++ b :: post)) (.inl ⟨pre, a, b, post, rfl, rfl, hab⟩)
    have hentries {u : Value} {items : List Value} (h : u.exposed = .list items) :
        (serviceEntries u).exposed = .map [(.text "models", .list items)] := by
      rw [serviceEntries, h]
      rfl
    have hc : Changes "models" (some (.list (pre ++ a :: post))) (.list (pre ++ b :: post))
        [(.text "models", .list (pre ++ a :: post))] [(.text "models", .list (pre ++ b :: post))] :=
      ⟨[], [], rfl, rfl, rfl⟩
    exact ⟨_, beneath_nullIssues _ ▸ gains_checkService (hentries hv) (hentries hw) hc hpath⟩

/-! ## Outcomes -/

/-- Two validations have one outcome: one service, or the same issues. -/
def ValidatedAlike : Except Refusal Service → Except Refusal Service → Prop
  | .ok s, .ok t => t = s
  | .error .empty, .error .empty => True
  | .error (.invalid is), .error (.invalid js) => List.Forall₂ SameIssue is js
  | _, _ => False

theorem build_of_ne_null (h : v ≠ .null) : build v = match checkService v with
    | .accepted s => .ok s
    | .rejected issues => .error (.invalid issues) := by
  cases v with
  | null => exact absurd rfl h
  | _ => rfl

theorem ne_null_of_exposed (h : v.exposed = w) (hw : w ≠ .null) : v ≠ .null := by
  rintro rfl
  exact hw h.symm

theorem ServiceGivesNull.ne_null (h : ServiceGivesNull c v w) : v ≠ .null ∧ w ≠ .null := by
  cases h with
  | models h =>
    obtain ⟨es, es', n, hv, hw, -⟩ := h
    exact ⟨ne_null_of_exposed hv nofun, ne_null_of_exposed hw nofun⟩
  | listed h | byName h =>
    obtain ⟨es, es', a, b, hv, hw, -⟩ := h
    exact ⟨ne_null_of_exposed hv nofun, ne_null_of_exposed hw nofun⟩
  | bare hv hw _ => exact ⟨ne_null_of_exposed hv nofun, ne_null_of_exposed hw nofun⟩

/-- Outcomes without new issues are alike, and others are not. -/
theorem validatedAlike_of_gains (h : (checkService v).Gains new (checkService w)) (hv : v ≠ .null)
    (hw : w ≠ .null) : ValidatedAlike (build v) (build w) ↔ new = [] := by
  obtain ⟨hissues, hpart⟩ := h
  rw [build_of_ne_null hv, build_of_ne_null hw]
  cases hx : checkService v with
  | accepted s =>
    rw [hx] at hpart
    cases hy : checkService w with
    | accepted t =>
      rw [hy] at hpart
      cases new with
      | nil => exact iff_of_true (Option.some.inj hpart) rfl
      | cons => cases hpart
    | rejected js =>
      rw [hy] at hpart
      cases new with
      | nil => cases hpart
      | cons => exact iff_of_false id (List.cons_ne_nil _ _)
  | rejected is =>
    rw [hx] at hpart hissues
    cases hy : checkService w with
    | accepted t =>
      rw [hy] at hpart
      cases new <;> cases hpart
    | rejected js =>
      rw [hy] at hissues
      change List.Forall₂ SameIssue is js ↔ _
      rw [Added.forall₂_iff]
      constructor
      · intro hsame
        have hlength : is.length + new.length = is.length + 0 :=
          hissues.length.symm.trans hsame.length
        exact List.eq_nil_of_length_eq_zero (Nat.add_left_cancel hlength)
      · rintro rfl
        exact hissues

/-- The null for the methods of a class is one more issue. -/
theorem added_of_methods (h : ServiceGivesNull .methods v w) :
    ∃ path, Added [⟨path, .notList, .null⟩] (checkService v).issues (checkService w).issues :=
  (gains_of_serviceGivesNull h).imp fun _ hgains => hgains.issues

/-- A service is validated alike with a collection given as null, unless it is that of the methods
of a class. -/
theorem validatedAlike_iff (h : ServiceGivesNull c v w) :
    ValidatedAlike (build v) (build w) ↔ c ≠ .methods := by
  obtain ⟨path, hgains⟩ := gains_of_serviceGivesNull h
  rw [validatedAlike_of_gains hgains h.ne_null.1 h.ne_null.2]
  unfold nullIssues
  split <;> simp_all

/-- A service of one class Note with the given settings. -/
def noteWithSettings (settings : Mapping) : Value :=
  .map [(.text "models", .list [.map [(.text "name", .text "Note"),
    (.text "settings", .map settings)]])]

theorem validatedAlike_iff_acls : (∃ s, build (noteWithSettings []) = .ok s) ∧
    ValidatedAlike (build (noteWithSettings []))
      (build (noteWithSettings [(.text "acls", .null)])) := by
  have hacls : GivesNull aclsField (.map []) (.map [(.text "acls", .null)]) :=
    ⟨_, _, "acls", rfl, rfl, .inl rfl, rfl, [], [], rfl, rfl, rfl⟩
  have hclass : ClassGivesNull .acls
      (.map [(.text "name", .text "Note"), (.text "settings", .map [])])
      (.map [(.text "name", .text "Note"), (.text "settings", .map [(.text "acls", .null)])]) :=
    ⟨_, _, _, _, rfl, rfl, ⟨[(.text "name", .text "Note")], [], rfl, rfl, rfl⟩, hacls⟩
  have hservice : ServiceGivesNull .acls (noteWithSettings [])
      (noteWithSettings [(.text "acls", .null)]) :=
    .listed ⟨_, _, _, _, rfl, rfl, ⟨[], [], rfl, rfl, rfl⟩, [], _, _, [], rfl, rfl, hclass⟩
  exact ⟨⟨_, rfl⟩, (validatedAlike_iff hservice).mpr (by decide)⟩

/-- A class is accepted without methods and rejected with null for them. -/
theorem not_validatedAlike :
    ServiceGivesNull .methods (.list [.map [(.text "name", .text "Note")]])
        (.list [.map [(.text "name", .text "Note"), (.text "methods", .null)]]) ∧
      (∃ s, build (.list [.map [(.text "name", .text "Note")]]) = .ok s) ∧
      build (.list [.map [(.text "name", .text "Note"), (.text "methods", .null)]]) =
        .error (.invalid [⟨[.key "models", .index 0, .key "methods"], .notList, .null⟩]) ∧
      ¬ ValidatedAlike (build (.list [.map [(.text "name", .text "Note")]]))
        (build (.list [.map [(.text "name", .text "Note"), (.text "methods", .null)]])) := by
  have hclass : ClassGivesNull .methods (.map [(.text "name", .text "Note")])
      (.map [(.text "name", .text "Note"), (.text "methods", .null)]) :=
    ⟨_, _, "methods", rfl, rfl, .inl rfl, rfl, [(.text "name", .text "Note")], [], rfl, rfl, rfl⟩
  exact ⟨@ServiceGivesNull.bare _ _ _ [] [] _ _ rfl rfl hclass, ⟨_, rfl⟩, rfl, id⟩

end RemoteBindings.Descriptor
