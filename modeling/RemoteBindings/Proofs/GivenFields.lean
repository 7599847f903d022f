import RemoteBindings.Proofs.AddedIssues
import RemoteBindings.Proofs.Checks
import RemoteBindings.Proofs.Entries

/-!
# Parts with a changed field

Two mappings that differ under one key alone (`Changes`) are checked alike up to the field of that
key: the other fields are found where they were, and no extra field is gained or lost.
-/

namespace RemoteBindings

namespace Value

variable {n : String} {es es' : List (Value × Value)}

theorem field?_append : field? n (es ++ es') = (field? n es).or (field? n es') := by
  induction es with
  | nil => rfl
  | cons e es ih =>
    obtain ⟨k, v⟩ := e
    rw [List.cons_append]
    by_cases hk : k = text n
    · subst hk
      simp [field?]
    · rw [field?_cons_of_ne hk, field?_cons_of_ne hk, ih]

/-- Entries put under other keys are not found under a name. -/
theorem field?_put_of_ne {k v : Value} (hk : k ≠ text n) :
    field? n (Entries.put k v es) = field? n es := by
  induction es with
  | nil => exact field?_cons_of_ne hk
  | cons e es ih =>
    obtain ⟨j, u⟩ := e
    rw [Entries.put]
    split
    · rename_i hj
      have hj : j ≠ text n := by
        rintro rfl
        exact hk (text_beq_iff.mp hj)
      rw [field?_cons_of_ne hj, field?_cons_of_ne hj]
    · by_cases hj : j = text n
      · subst hj
        simp [field?]
      · rw [field?_cons_of_ne hj, field?_cons_of_ne hj, ih]

theorem field?_foldl_put_of_ne (h : field? n es = none) (acc : List (Value × Value)) :
    field? n (es.foldl (fun acc e => Entries.put e.1 e.2 acc) acc) = field? n acc := by
  induction es generalizing acc with
  | nil => rfl
  | cons e es ih =>
    obtain ⟨hk, hes⟩ := field?_cons_eq_none_iff.mp h
    rw [List.foldl_cons, ih hes, field?_put_of_ne hk]

/-- A new name goes to the end. -/
theorem put_text {v : Value} (h : field? n es = none) :
    Entries.put (text n) v es = es ++ [(text n, v)] := by
  induction es with
  | nil => rfl
  | cons e es ih =>
    obtain ⟨hk, hes⟩ := field?_cons_eq_none_iff.mp h
    rw [Entries.put, if_neg (mt beq_text_iff.mp hk), ih hes, List.cons_append]

end Value

namespace Descriptor

variable {α : Type} {n m : String} {v? : Option Value} {w : Value} {es es' : Mapping} {f : Field}
  {fields : List Field} {new : List Issue} {default : α} {check : Check α}

/-- One mapping has the value `w` where the other has `v?` or nothing under a key, and the two have
all other entries in common. -/
def Changes (n : String) (v? : Option Value) (w : Value) (es es' : Mapping) : Prop :=
  ∃ pre post, Value.field? n (pre ++ post) = none ∧
    es = pre ++ (v?.map (Value.text n, ·)).toList ++ post ∧ es' = pre ++ (.text n, w) :: post

/-- Whether a field may be given under a name. -/
def Field.hasName (f : Field) (n : String) : Prop := n = f.preferred ∨ n = f.name

instance : Decidable (f.hasName n) := inferInstanceAs (Decidable (_ ∨ _))

/-- A field may be given under a name and is not given under another one. -/
structure Field.OnlyAs (f : Field) (n : String) (es : Mapping) : Prop where
  hasName : f.hasName n
  field? : ∀ m, f.hasName m → m ≠ n → Value.field? m es = none

theorem Field.onlyAs_plain (es : Mapping) : (plain n).OnlyAs n es :=
  ⟨.inl rfl, fun _ hm hne => absurd (hm.elim id id) hne⟩

theorem Field.locate?_eq_none_iff :
    f.locate? es = none ↔ ∀ m, f.hasName m → Value.field? m es = none := by
  unfold Field.locate?
  constructor
  · intro h m hm
    split at h
    · cases h
    · rcases hm with rfl | rfl
      · assumption
      · exact Option.map_eq_none_iff.mp h
  · intro h
    rw [h _ (.inl rfl), h _ (.inr rfl)]
    rfl

theorem Field.onlyAs_of_locate? (hn : f.hasName n) (h : f.locate? es = none) : f.OnlyAs n es :=
  ⟨hn, fun m hm _ => Field.locate?_eq_none_iff.mp h m hm⟩

theorem Field.OnlyAs.locate? (h : f.OnlyAs n es) :
    f.locate? es = (Value.field? n es).map (n, ·) := by
  unfold Field.locate?
  by_cases hp : f.preferred = n
  · subst hp
    cases hv : Value.field? f.preferred es with
    | some v => rfl
    | none =>
      by_cases hname : f.name = f.preferred
      · rw [hname, hv]
      · rw [h.field? f.name (.inr rfl) hname]
        rfl
  · have hname : n = f.name := h.hasName.resolve_left (Ne.symm hp)
    rw [h.field? f.preferred (.inl rfl) hp, ← hname]

namespace Changes

variable (hc : Changes n v? w es es')

include hc

theorem field?_old : Value.field? n es = v? := by
  obtain ⟨pre, post, hother, rfl, -⟩ := hc
  rw [Value.field?_append, Option.or_eq_none_iff] at hother
  rw [Value.field?_append, Value.field?_append, hother.1, hother.2]
  cases v? <;> simp [Value.field?]

theorem field?_new : Value.field? n es' = some w := by
  obtain ⟨pre, post, hother, -, rfl⟩ := hc
  rw [Value.field?_append, Option.or_eq_none_iff] at hother
  rw [Value.field?_append, hother.1]
  simp [Value.field?]

theorem field?_of_ne (hm : m ≠ n) : Value.field? m es' = Value.field? m es := by
  obtain ⟨pre, post, -, rfl, rfl⟩ := hc
  have hne : Value.text n ≠ .text m := fun h => hm (Value.text.inj h).symm
  rw [Value.field?_append, Value.field?_append, Value.field?_append, Value.field?_cons_of_ne hne]
  cases v? with
  | none => simp [Value.field?]
  | some v => simp [Value.field?, Ne.symm hm]

theorem onlyAs (h : f.OnlyAs n es) : f.OnlyAs n es' :=
  ⟨h.hasName, fun m hm hne => (hc.field?_of_ne hne).trans (h.field? m hm hne)⟩

theorem locate?_old (h : f.OnlyAs n es) : f.locate? es = v?.map (n, ·) := by
  rw [h.locate?, hc.field?_old]

theorem locate?_new (h : f.OnlyAs n es) : f.locate? es' = some (n, w) := by
  rw [(hc.onlyAs h).locate?, hc.field?_new]
  rfl

theorem locate?_of_not_hasName (h : ¬ f.hasName n) : f.locate? es' = f.locate? es := by
  rw [Field.hasName, not_or] at h
  rw [Field.locate?, Field.locate?, hc.field?_of_ne (Ne.symm h.1), hc.field?_of_ne (Ne.symm h.2)]

/-! ## Checks -/

/-- A mapping that lacks a required field is reported as it is. -/
theorem gains_required (h : ¬ f.hasName n) :
    (f.required check es).Gains [] (f.required check es') := by
  unfold Field.required
  rw [hc.locate?_of_not_hasName h]
  cases f.locate? es with
  | some found => exact .refl _
  | none => exact ⟨.keep ⟨rfl, rfl, fun hm => absurd rfl hm⟩ .nil, rfl⟩

theorem gains_optional_of_not (h : ¬ f.hasName n) :
    (f.optional default check es).Gains [] (f.optional default check es') := by
  unfold Field.optional
  rw [hc.locate?_of_not_hasName h]
  exact .refl _

theorem gains_optional (h : f.OnlyAs n es)
    (hw : (v?.elim (.accepted default) check).Gains new (check w)) :
    (f.optional default check es).Gains (new.map (Issue.beneath (.key n)))
      (f.optional default check es') := by
  unfold Field.optional
  rw [hc.locate?_old h, hc.locate?_new h]
  cases v? <;> exact hw.under _

/-! ## Extra fields -/

theorem claims_of_ne (h : f.hasName n → f.OnlyAs n es) (hm : m ≠ n) :
    f.claims es' m = f.claims es m := by
  unfold Field.claims
  by_cases hn : f.hasName n
  · rw [hc.locate?_old (h hn), hc.locate?_new (h hn)]
    have hnm : (n == m) = false := beq_eq_false_iff_ne.mpr (Ne.symm hm)
    cases v? with
    | none => exact hnm
    | some v => rfl
  · rw [hc.locate?_of_not_hasName hn]

end Changes

/-- An entry that a field claims is no extra one. -/
theorem extraEntries_of_claimed (h : fields.any (Field.claims es n) = true) (pre post : Mapping) :
    extraEntries fields es (pre ++ (.text n, w) :: post) =
      extraEntries fields es (pre ++ post) := by
  induction pre with
  | nil => rw [List.nil_append, List.nil_append, extraEntries, if_pos h]
  | cons e pre ih =>
    obtain ⟨k, v⟩ := e
    rw [List.cons_append, List.cons_append]
    cases k <;> simp only [extraEntries, ih]

/-- Which entries are extra ones depends on the fields that claim their keys. -/
theorem extraEntries_congr {part : Mapping} (hn : Value.field? n part = none)
    (h : ∀ m, m ≠ n → fields.any (Field.claims es' m) = fields.any (Field.claims es m)) :
    extraEntries fields es' part = extraEntries fields es part := by
  induction part with
  | nil => rfl
  | cons e part ih =>
    obtain ⟨k, v⟩ := e
    obtain ⟨hk, hpart⟩ := Value.field?_cons_eq_none_iff.mp hn
    cases k with
    | text m => simp only [extraEntries, ih hpart, h m fun hm => hk (congrArg _ hm)]
    | _ => simp only [extraEntries, ih hpart]

theorem Changes.extraFields (hc : Changes n v? w es es') (hname : ∃ f ∈ fields, f.hasName n)
    (h : ∀ f ∈ fields, f.hasName n → f.OnlyAs n es) :
    extraFields fields es' = extraFields fields es := by
  obtain ⟨f, hf, hfn⟩ := hname
  have hnew : fields.any (Field.claims es' n) = true :=
    List.any_eq_true.mpr ⟨f, hf, by simp [Field.claims, hc.locate?_new (h f hf hfn)]⟩
  have hold (hv : v?.isSome) : fields.any (Field.claims es n) = true := by
    obtain ⟨v, rfl⟩ := Option.isSome_iff_exists.mp hv
    exact List.any_eq_true.mpr ⟨f, hf, by simp [Field.claims, hc.locate?_old (h f hf hfn)]⟩
  have hothers (m : String) (hm : m ≠ n) :
      fields.any (Field.claims es' m) = fields.any (Field.claims es m) := by
    rw [Bool.eq_iff_iff, List.any_eq_true, List.any_eq_true]
    exact exists_congr fun g => and_congr_right fun hg => by rw [hc.claims_of_ne (h g hg) hm]
  obtain ⟨pre, post, hnone, hes, hes'⟩ := id hc
  have hfirst : extraEntries fields es es = extraEntries fields es (pre ++ post) := by
    refine (congrArg (extraEntries fields es) hes).trans ?_
    cases v? with
    | none => simp
    | some v =>
      rw [Option.map_some, Option.toList_some, List.append_assoc, List.singleton_append,
        extraEntries_of_claimed (hold rfl)]
  have hentries : extraEntries fields es' es' = extraEntries fields es es := by
    calc extraEntries fields es' es'
        = extraEntries fields es' (pre ++ post) :=
          (congrArg (extraEntries fields es') hes').trans (extraEntries_of_claimed hnew pre post)
      _ = extraEntries fields es (pre ++ post) := extraEntries_congr hnone hothers
      _ = extraEntries fields es es := hfirst.symm
  rw [Descriptor.extraFields, Descriptor.extraFields, hentries]

/-! ## Mappings made of entries -/

theorem Changes.put (hc : Changes n v? w es es') {k u : Value} (hk : k ≠ .text n) :
    Changes n v? w (Entries.put k u es) (Entries.put k u es') := by
  obtain ⟨pre, post, hnone, rfl, rfl⟩ := hc
  rw [Value.field?_append, Option.or_eq_none_iff] at hnone
  have hnew : (Value.text n == k) = false :=
    Bool.eq_false_iff.mpr fun h => hk (Value.text_beq_iff.mp h)
  rw [List.append_assoc, Entries.put_append pre, Entries.put_append pre]
  cases Entries.hasKey k pre with
  | true =>
    refine ⟨Entries.put k u pre, post, ?_, (List.append_assoc ..).symm, rfl⟩
    rw [Value.field?_append, Value.field?_put_of_ne hk, hnone.1, hnone.2]
    rfl
  | false =>
    refine ⟨pre, Entries.put k u post, ?_, ?_, ?_⟩
    · rw [Value.field?_append, Value.field?_put_of_ne hk, hnone.1, hnone.2]
      rfl
    · cases v? <;> simp [Entries.put, hnew]
    · simp [Entries.put, hnew]

theorem Changes.foldl_put (hc : Changes n v? w es es') {entries : Mapping}
    (h : Value.field? n entries = none) :
    Changes n v? w (entries.foldl (fun acc e => Entries.put e.1 e.2 acc) es)
      (entries.foldl (fun acc e => Entries.put e.1 e.2 acc) es') := by
  induction entries generalizing es es' with
  | nil => exact hc
  | cons e entries ih =>
    obtain ⟨hk, hentries⟩ := Value.field?_cons_eq_none_iff.mp h
    exact ih (hc.put hk) hentries

/-- A mapping made of changed entries is changed in the same way. -/
theorem Changes.ofList (hc : Changes n v? w es es') :
    Changes n v? w (Entries.ofList es) (Entries.ofList es') := by
  obtain ⟨pre, post, hnone, rfl, rfl⟩ := hc
  rw [Value.field?_append, Option.or_eq_none_iff] at hnone
  have hacc : Value.field? n (Entries.ofList pre) = none := Value.field?_foldl_put_of_ne hnone.1 []
  have hstep : Changes n v? w
      ((v?.map (Value.text n, ·)).toList.foldl (fun acc e => Entries.put e.1 e.2 acc)
        (Entries.ofList pre))
      (Entries.put (.text n) w (Entries.ofList pre)) := by
    refine ⟨Entries.ofList pre, [], by rw [List.append_nil, hacc], ?_, Value.put_text hacc⟩
    cases v? with
    | none => simp
    | some v => simp [Value.put_text hacc]
  have hall := hstep.foldl_put hnone.2
  rw [Entries.ofList, Entries.ofList, List.foldl_append, List.foldl_append, List.foldl_append]
  exact hall

theorem Changes.cons (hc : Changes n v? w es es') {k u : Value} (hk : k ≠ .text n) :
    Changes n v? w ((k, u) :: es) ((k, u) :: es') := by
  obtain ⟨pre, post, hnone, rfl, rfl⟩ := hc
  exact ⟨(k, u) :: pre, post, Value.field?_cons_eq_none_iff.mpr ⟨hk, hnone⟩, rfl, rfl⟩

end Descriptor

end RemoteBindings
