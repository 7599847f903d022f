import Mathlib.Data.List.Infix
import RemoteBindings.Entries

/-!
# Maps by their entries

What `Entries.put` does to the keys (`keys_put`) and to what is found (`find?_put`). A map that is
put together from a list finds the last value of each key (`find?_ofList`), so two lists with the
same keys make the same map if each value that differs is replaced later: `ofList_flatMap_eq_iff`
says so of lists that are made block by block, and `exists_last_of_mem_keys` finds the block that
counts for a key. A list with distinct keys is its map (`ofList_of_nodup`), any other is longer
(`length_ofList_eq_iff`), and the order of its entries does not matter to what is found
(`find?_perm`). An erased key leaves the other entries as they are (`find?_erase`, `erase_ofList`).
-/

namespace RemoteBindings.Entries

variable {κ α β : Type} [BEq κ] [LawfulBEq κ] {k : κ} {v : α} {es es' : Entries κ α}

omit [BEq κ] [LawfulBEq κ] in
@[simp] theorem keys_nil : keys ([] : Entries κ α) = [] := rfl

omit [BEq κ] [LawfulBEq κ] in
@[simp] theorem keys_cons (e : κ × α) (es : Entries κ α) : keys (e :: es) = e.1 :: es.keys := rfl

omit [BEq κ] [LawfulBEq κ] in
@[simp] theorem keys_append (es es' : Entries κ α) : keys (es ++ es') = es.keys ++ es'.keys :=
  List.map_append

theorem mem_put {e : κ × α} (h : e ∈ put k v es) : e = (k, v) ∨ e ∈ es := by
  induction es with
  | nil => exact .inl (List.mem_singleton.mp h)
  | cons x es ih =>
    unfold put at h
    split at h
    · rename_i hk
      rcases List.mem_cons.mp h with rfl | h
      · exact .inl (by rw [eq_of_beq hk])
      · exact .inr (List.mem_cons_of_mem _ h)
    · rcases List.mem_cons.mp h with rfl | h
      · exact .inr List.mem_cons_self
      · exact (ih h).imp_right (List.mem_cons_of_mem _)

/-- A new key comes last. -/
theorem keys_put : (put k v es).keys = if es.keys.contains k then es.keys else es.keys ++ [k] := by
  induction es with
  | nil => rfl
  | cons x es ih =>
    unfold put
    split
    · rename_i hk
      simp [eq_of_beq hk]
    · rename_i hk
      have hk : (k == x.1) = false :=
        beq_eq_false_iff_ne.mpr fun h => hk (beq_iff_eq.mpr h.symm)
      simp only [keys_cons, ih, List.contains_cons, hk, Bool.false_or]
      split <;> rfl

omit [LawfulBEq κ] in
/-- An entry is put into the first of two maps if its key is there. -/
theorem put_append (es es' : Entries κ α) :
    put k v (es ++ es') = if hasKey k es then put k v es ++ es' else es ++ put k v es' := by
  induction es with
  | nil => rfl
  | cons x es ih =>
    have hk : hasKey k (x :: es) = (x.1 == k || hasKey k es) := List.any_cons
    rw [List.cons_append, put, put, ih, hk]
    cases x.1 == k <;> cases hasKey k es <;> simp

theorem nodup_keys_put (h : es.keys.Nodup) : (put k v es).keys.Nodup := by
  rw [keys_put]
  split
  · exact h
  · rename_i hk
    refine List.nodup_append.mpr ⟨h, by simp, fun a ha b hb => ?_⟩
    rintro rfl
    exact hk (List.contains_iff_mem.mpr (List.mem_singleton.mp hb ▸ ha))

theorem find?_put {j : κ} : find? j (put k v es) = if k == j then some v else find? j es := by
  induction es with
  | nil => rfl
  | cons x es ih =>
    unfold put
    split
    · rename_i hk
      simp only [find?, eq_of_beq hk]
      split <;> rfl
    · rename_i hk
      simp only [find?, ih]
      by_cases hx : (x.1 == j) = true
      · have hkj : ¬ (k == j) = true := fun hkj =>
          hk (beq_iff_eq.mpr ((eq_of_beq hx).trans (eq_of_beq hkj).symm))
        simp [hx, hkj]
      · simp [hx]

theorem find?_eq_some_iff (hn : es.keys.Nodup) : find? k es = some v ↔ (k, v) ∈ es := by
  induction es with
  | nil => simp [find?]
  | cons x es ih =>
    obtain ⟨hx, hn⟩ := List.nodup_cons.mp hn
    rw [find?, List.mem_cons]
    split
    · rename_i hk
      have hk := eq_of_beq hk
      have hmem : (k, v) ∉ es := fun h => hx (hk ▸ List.mem_map_of_mem (f := Prod.fst) h)
      simp [Prod.ext_iff, hk, hmem, eq_comm]
    · rename_i hk
      have hne : (k, v) ≠ x := by
        rintro rfl
        exact hk (beq_self_eq_true _)
      rw [ih hn, or_iff_right hne]

theorem mem_of_find? (h : find? k es = some v) : (k, v) ∈ es := by
  induction es with
  | nil => cases h
  | cons x es ih =>
    unfold find? at h
    split at h
    · rename_i hk
      cases h
      exact List.mem_cons.mpr (.inl (Prod.ext (eq_of_beq hk).symm rfl))
    · exact List.mem_cons_of_mem _ (ih h)

/-- Maps with the same entries in different orders find the same. -/
theorem find?_perm (hp : es.Perm es') (hn : es.keys.Nodup) : find? k es = find? k es' := by
  have hn' : es'.keys.Nodup := (hp.map Prod.fst).nodup_iff.mp hn
  refine Option.ext fun v => ?_
  rw [find?_eq_some_iff hn, find?_eq_some_iff hn', hp.mem_iff]

/-- Where all values are made of their keys, each key finds its own. -/
theorem find?_map_of_mem {f : κ → α} {keys : List κ} (hk : k ∈ keys) :
    find? k (keys.map fun j => (j, f j)) = some (f k) := by
  induction keys with
  | nil => cases hk
  | cons j keys ih =>
    rw [List.map_cons, find?]
    split
    · rename_i hj
      exact congrArg (fun j => some (f j)) (eq_of_beq hj)
    · rename_i hj
      exact ih ((List.mem_cons.mp hk).resolve_left fun h => hj (beq_iff_eq.mpr h.symm))

omit [BEq κ] [LawfulBEq κ] in
/-- If the entries of one key alone yield something, so does the whole map. -/
theorem flatMap_of_mem {γ : Type} {e : κ × α} {f : κ × α → List γ} (hn : es.keys.Nodup)
    (he : e ∈ es) (hf : ∀ x ∈ es, x.1 ≠ e.1 → f x = []) : es.flatMap f = f e := by
  induction es with
  | nil => cases he
  | cons x es ih =>
    obtain ⟨hx, hn⟩ := List.nodup_cons.mp hn
    rw [List.flatMap_cons]
    rcases List.mem_cons.mp he with rfl | he
    · have hrest : es.flatMap f = [] := List.flatMap_eq_nil_iff.mpr fun y hy =>
        hf y (List.mem_cons_of_mem _ hy) fun h => hx (h ▸ List.mem_map_of_mem hy)
      rw [hrest, List.append_nil]
    · have hxe : x.1 ≠ e.1 := fun h => hx (h ▸ List.mem_map_of_mem he)
      rw [hf x List.mem_cons_self hxe, List.nil_append,
        ih hn he fun y hy => hf y (List.mem_cons_of_mem _ hy)]

/-- What is found for a key is the only value that it has. -/
theorem forall_of_find? {p : α → Prop} (hn : es.keys.Nodup) (hf : find? k es = some v) :
    (∀ e ∈ es, e.1 = k → p e.2) ↔ p v := by
  refine ⟨fun h => h _ ((find?_eq_some_iff hn).mp hf) rfl, ?_⟩
  rintro h e he rfl
  have he := (find?_eq_some_iff hn).mpr he
  rw [hf] at he
  rwa [← Option.some.inj he]

/-- The value of a present key is replaced where it stands. -/
theorem put_of_mem (hn : es.keys.Nodup) (hk : k ∈ es.keys) :
    put k v es = es.map fun e => (e.1, if e.1 == k then v else e.2) := by
  induction es with
  | nil => cases hk
  | cons x es ih =>
    obtain ⟨hx, hn⟩ := List.nodup_cons.mp hn
    rw [put, List.map_cons]
    split
    · rename_i hxk
      have hrest : es.map (fun e => (e.1, if e.1 == k then v else e.2)) = es := by
        refine List.map_congr_left (fun e he => ?_) |>.trans (List.map_id es)
        have hne : ¬ (e.1 == k) = true := fun h =>
          hx (eq_of_beq hxk ▸ eq_of_beq h ▸ List.mem_map_of_mem he)
        simp [hne]
      rw [hrest]
    · rename_i hxk
      rw [ih hn ((List.mem_cons.mp hk).resolve_left fun h => hxk (beq_iff_eq.mpr h.symm))]

/-- A table that is read by `List.lookup` has the row that is found. -/
theorem mem_of_lookup_eq_some (h : es.lookup k = some v) : (k, v) ∈ es := by
  obtain ⟨l₁, l₂, rfl, -⟩ := List.lookup_eq_some_iff.mp h
  exact List.mem_append_right _ List.mem_cons_self

/-! ## Maps with other values -/

section MapValues

variable (f : α → β)

omit [LawfulBEq κ] in
theorem put_mapValues : put k (f v) (es.mapValues f) = (put k v es).mapValues f := by
  induction es with
  | nil => rfl
  | cons x es ih =>
    simp only [mapValues, List.map_cons] at ih ⊢
    simp only [put, ih]
    split <;> rfl

omit [LawfulBEq κ] in
theorem find?_mapValues : find? k (es.mapValues f) = (find? k es).map f := by
  induction es with
  | nil => rfl
  | cons x es ih =>
    simp only [mapValues, List.map_cons] at ih ⊢
    simp only [find?, ih]
    split <;> rfl

omit [BEq κ] [LawfulBEq κ] in
theorem keys_mapValues : (es.mapValues f).keys = es.keys := by
  rw [keys, mapValues, List.map_map]
  rfl

omit [LawfulBEq κ] in
theorem hasKey_mapValues : hasKey k (es.mapValues f) = hasKey k es := by
  rw [hasKey, mapValues, List.any_map, hasKey]
  rfl

omit [LawfulBEq κ] in
theorem foldl_put_mapValues (acc : Entries κ α) :
    (es.mapValues f).foldl (fun acc e => put e.1 e.2 acc) (acc.mapValues f) =
      mapValues f (es.foldl (fun acc e => put e.1 e.2 acc) acc) := by
  induction es generalizing acc with
  | nil => rfl
  | cons x es ih =>
    rw [List.foldl_cons, ← ih, ← put_mapValues]
    rfl

omit [LawfulBEq κ] in
theorem ofList_mapValues : ofList (es.mapValues f) = (ofList es).mapValues f :=
  foldl_put_mapValues f []

end MapValues

/-! ## Maps without a key -/

omit [LawfulBEq κ] in
theorem erase_map_values (f : κ × α → β) :
    erase k (es.map fun e => (e.1, f e)) = (erase k es).map fun e => (e.1, f e) :=
  List.filter_map

theorem find?_erase {j : κ} : find? j (erase k es) = if k == j then none else find? j es := by
  induction es with
  | nil => simp [erase, find?]
  | cons x es ih =>
    rw [erase] at ih
    rw [erase, List.filter_cons]
    by_cases hx : x.1 = k
    · rw [if_neg (by simpa using hx), ih, find?, hx]
      split <;> rfl
    · rw [if_pos (by simpa using hx), find?, find?, ih]
      by_cases hj : x.1 = j
      · have hkj : k ≠ j := fun h => hx (hj.trans h.symm)
        simp [hj, hkj]
      · simp [hj]

theorem erase_put {j : κ} :
    erase k (put j v es) = if j == k then erase k es else put j v (erase k es) := by
  induction es with
  | nil => by_cases hj : j = k <;> simp [erase, put, hj]
  | cons x es ih =>
    simp only [erase] at ih ⊢
    by_cases hxj : x.1 = j
    · subst hxj
      by_cases hk : x.1 = k <;> simp [put, hk]
    · have hput : put j v (x :: es) = x :: put j v es := by simp [put, hxj]
      rw [hput, List.filter_cons, List.filter_cons, ih]
      by_cases hk : x.1 = k
      · simp [hk]
      · by_cases hj : j = k <;> simp [hk, hj, put, hxj]

theorem erase_ofList (es : List (κ × α)) : erase k (ofList es) = ofList (erase k es) := by
  have h (acc : Entries κ α) : erase k (es.foldl (fun acc e => put e.1 e.2 acc) acc) =
      (erase k es).foldl (fun acc e => put e.1 e.2 acc) (erase k acc) := by
    induction es generalizing acc with
    | nil => rfl
    | cons x es ih =>
      rw [List.foldl_cons, ih, erase_put]
      by_cases hx : x.1 = k <;> simp [erase, hx]
  exact h []

/-! ## Maps put together from a list -/

omit [LawfulBEq κ] in
theorem find?_append (es es' : Entries κ α) :
    find? k (es ++ es') = (find? k es).or (find? k es') := by
  induction es with
  | nil => rfl
  | cons x es ih =>
    simp only [List.cons_append, find?, ih]
    split <;> rfl

theorem find?_eq_none_iff : find? k es = none ↔ k ∉ es.keys := by
  induction es with
  | nil => simp [find?, keys]
  | cons x es ih =>
    rw [keys_cons, List.mem_cons, not_or, ← ih, find?]
    split
    · rename_i hk
      simp [eq_of_beq hk]
    · rename_i hk
      exact (and_iff_right fun he => hk (beq_iff_eq.mpr he.symm)).symm

/-- Every entry is found under its key exactly if there is one value for each key. -/
theorem forall_find?_eq_some_iff :
    (∀ e ∈ es, find? e.1 es = some e.2) ↔ ∀ e ∈ es, ∀ x ∈ es, e.1 = x.1 → e.2 = x.2 := by
  constructor
  · intro h e he x hx hk
    exact Option.some.inj ((h e he).symm.trans (hk ▸ h x hx))
  · intro h e he
    obtain ⟨v, hv⟩ := Option.ne_none_iff_exists'.mp fun hn =>
      find?_eq_none_iff.mp hn (List.mem_map_of_mem he)
    rw [hv, h _ he _ (mem_of_find? hv) rfl]

theorem find?_foldl_put (es acc : Entries κ α) :
    find? k (es.foldl (fun acc e => put e.1 e.2 acc) acc) =
      (find? k es.reverse).or (find? k acc) := by
  induction es generalizing acc with
  | nil => rfl
  | cons x es ih =>
    rw [List.foldl_cons, ih, List.reverse_cons, find?_append, find?_put, Option.or_assoc]
    congr 1
    simp only [find?]
    split <;> rfl

theorem mem_of_mem_foldl_put {e : κ × α} (es acc : Entries κ α)
    (h : e ∈ es.foldl (fun acc e => put e.1 e.2 acc) acc) : e ∈ acc ∨ e ∈ es := by
  induction es generalizing acc with
  | nil => exact .inl h
  | cons x es ih =>
    rcases ih _ h with hacc | hes
    · rcases mem_put hacc with rfl | hacc
      · exact .inr List.mem_cons_self
      · exact .inl hacc
    · exact .inr (List.mem_cons_of_mem _ hes)

theorem mem_keys_foldl_put {acc : Entries κ α} :
    k ∈ keys (es.foldl (fun acc e => put e.1 e.2 acc) acc) ↔ k ∈ acc.keys ∨ k ∈ es.keys := by
  induction es generalizing acc with
  | nil => simp
  | cons x es ih =>
    rw [List.foldl_cons, ih, keys_put, keys_cons, List.mem_cons, ← or_assoc]
    refine or_congr_left ?_
    split
    · rename_i hx
      exact (or_iff_left_of_imp fun hk => hk ▸ List.contains_iff_mem.mp hx).symm
    · rw [List.mem_append, List.mem_singleton]

theorem mem_of_mem_ofList {e : κ × α} (h : e ∈ ofList es) : e ∈ es :=
  (mem_of_mem_foldl_put es [] h).resolve_left List.not_mem_nil

theorem mem_keys_ofList (es : Entries κ α) : k ∈ keys (ofList es) ↔ k ∈ es.keys := by
  rw [ofList, mem_keys_foldl_put, keys_nil, or_iff_right List.not_mem_nil]

/-- The last value of a key is found. -/
theorem find?_ofList (es : Entries κ α) : find? k (ofList es) = find? k es.reverse := by
  rw [ofList, find?_foldl_put, find?, Option.or_none]

theorem nodup_keys_foldl_put (es acc : Entries κ α) (h : acc.keys.Nodup) :
    (keys (es.foldl (fun acc e => put e.1 e.2 acc) acc)).Nodup := by
  induction es generalizing acc with
  | nil => exact h
  | cons x es ih => exact ih _ (nodup_keys_put h)

theorem keys_foldl_put_congr {acc acc' : Entries κ α} (h : es.keys = es'.keys)
    (ha : acc.keys = acc'.keys) :
    keys (es.foldl (fun acc e => put e.1 e.2 acc) acc) =
      keys (es'.foldl (fun acc e => put e.1 e.2 acc) acc') := by
  induction es generalizing es' acc acc' with
  | nil => rw [List.map_eq_nil_iff.mp h.symm]; exact ha
  | cons x es ih =>
    cases es' with
    | nil => cases h
    | cons x' es' =>
      obtain ⟨hx, hes⟩ : x.1 = x'.1 ∧ keys es = keys es' := List.cons.inj h
      rw [List.foldl_cons, List.foldl_cons]
      refine ih hes ?_
      rw [keys_put, keys_put, ha, hx]

theorem put_of_not_mem (hk : k ∉ es.keys) : put k v es = es ++ [(k, v)] := by
  induction es with
  | nil => rfl
  | cons x es ih =>
    rw [keys_cons, List.mem_cons, not_or] at hk
    have hx : ¬ (x.1 == k) = true := fun h => hk.1 (eq_of_beq h).symm
    rw [put, if_neg hx, ih hk.2, List.cons_append]

/-- Distinct keys are all appended. -/
theorem foldl_put_of_nodup (acc : Entries κ α) (h : (acc.keys ++ es.keys).Nodup) :
    es.foldl (fun acc e => put e.1 e.2 acc) acc = acc ++ es := by
  induction es generalizing acc with
  | nil => rw [List.foldl_nil, List.append_nil]
  | cons x es ih =>
    have hx : x.1 ∉ acc.keys := fun hx =>
      List.nodup_append.mp h |>.2.2 x.1 hx x.1 List.mem_cons_self rfl
    rw [List.foldl_cons, put_of_not_mem hx, ih _ (by simpa using h), List.append_assoc]
    rfl

theorem ofList_of_nodup (h : es.keys.Nodup) : ofList es = es :=
  foldl_put_of_nodup [] h

theorem length_put : (put k v es).length =
    if es.keys.contains k then es.length else es.length + 1 := by
  have h : (put k v es).keys.length =
      (if es.keys.contains k then es.keys else es.keys ++ [k]).length := congrArg _ keys_put
  rw [keys, List.length_map] at h
  rw [h]
  split <;> simp [keys]

/-- At most one entry is made of each item of a list, and a key that comes again takes one away. -/
theorem length_foldl_put (es acc : Entries κ α) (h : acc.keys.Nodup) :
    (es.foldl (fun acc e => put e.1 e.2 acc) acc).length ≤ acc.length + es.length ∧
      ((es.foldl (fun acc e => put e.1 e.2 acc) acc).length = acc.length + es.length ↔
        (acc.keys ++ es.keys).Nodup) := by
  induction es generalizing acc with
  | nil => simpa [keys] using h
  | cons x es ih =>
    obtain ⟨hle, heq⟩ := ih (put x.1 x.2 acc) (nodup_keys_put h)
    rw [List.foldl_cons, List.length_cons]
    by_cases hx : x.1 ∈ acc.keys
    · have hl : (put x.1 x.2 acc).length = acc.length := by
        rw [length_put, if_pos (List.contains_iff_mem.mpr hx)]
      have hn : ¬ (acc.keys ++ keys (x :: es)).Nodup := fun hn =>
        List.nodup_append.mp hn |>.2.2 x.1 hx x.1 List.mem_cons_self rfl
      exact ⟨by omega, iff_of_false (by omega) hn⟩
    · have hl : (put x.1 x.2 acc).length = acc.length + 1 := by
        rw [length_put, if_neg (mt List.contains_iff_mem.mp hx)]
      rw [hl, put_of_not_mem hx] at heq
      have hsum : acc.length + (es.length + 1) = acc.length + 1 + es.length := by omega
      refine ⟨by omega, ?_⟩
      rw [put_of_not_mem hx, hsum, heq]
      simp

/-- A map has an entry for each item of its list exactly if the keys are distinct. -/
theorem length_ofList_eq_iff (es : Entries κ α) :
    (ofList es).length = es.length ↔ es.keys.Nodup := by
  simpa [ofList] using (length_foldl_put es [] List.nodup_nil).2

/-- Maps with the same keys in the same order are the same if they find the same. -/
theorem ext (hk : es.keys = es'.keys) (hn : es.keys.Nodup)
    (hf : ∀ k, find? k es = find? k es') : es = es' := by
  induction es generalizing es' with
  | nil => exact (List.map_eq_nil_iff.mp hk.symm).symm
  | cons x es ih =>
    cases es' with
    | nil => cases hk
    | cons x' es' =>
      obtain ⟨hx, hes⟩ : x.1 = x'.1 ∧ keys es = keys es' := List.cons.inj hk
      obtain ⟨hxn, hn⟩ := List.nodup_cons.mp hn
      have hv : x.2 = x'.2 := by simpa [find?, hx] using hf x.1
      rw [Prod.ext hx hv, ih hes hn fun k => ?_]
      by_cases hkx : x.1 = k
      · subst hkx
        rw [find?_eq_none_iff.mpr hxn, find?_eq_none_iff.mpr (hes ▸ hxn)]
      · have h := hf k
        have hne : (x.1 == k) = false := beq_eq_false_iff_ne.mpr hkx
        have hne' : (x'.1 == k) = false := hx ▸ hne
        rwa [find?, find?, hne, hne', if_neg Bool.false_ne_true, if_neg Bool.false_ne_true] at h

theorem ofList_eq_iff (h : es.keys = es'.keys) :
    ofList es = ofList es' ↔ ∀ k, find? k es.reverse = find? k es'.reverse := by
  constructor
  · intro he k
    rw [← find?_ofList, ← find?_ofList, he]
  · intro hf
    refine ext (keys_foldl_put_congr h rfl) (nodup_keys_foldl_put es [] List.nodup_nil) fun k => ?_
    rw [find?_ofList, find?_ofList, hf]

theorem find?_reverse_eq_none_iff : find? k es.reverse = none ↔ k ∉ es.keys := by
  rw [find?_eq_none_iff, keys, List.map_reverse, List.mem_reverse]
  rfl

theorem exists_find?_reverse (h : k ∈ es.keys) : ∃ v, find? k es.reverse = some v :=
  Option.ne_none_iff_exists'.mp (mt find?_reverse_eq_none_iff.mp (not_not.mpr h))

/-- The last values in two lists with a part before them. -/
theorem find?_reverse_append_eq_iff {fs fs' : Entries κ α} (hk : fs.keys = fs'.keys) :
    (∀ k, find? k (es ++ fs).reverse = find? k (es' ++ fs').reverse) ↔
      (∀ k, find? k fs.reverse = find? k fs'.reverse) ∧
        ∀ k ∉ fs.keys, find? k es.reverse = find? k es'.reverse := by
  simp only [List.reverse_append, find?_append]
  constructor
  · refine fun h => ⟨fun k => ?_, fun k hn => ?_⟩
    · by_cases hn : k ∈ fs.keys
      · obtain ⟨v, hv⟩ := exists_find?_reverse hn
        obtain ⟨v', hv'⟩ := exists_find?_reverse (hk ▸ hn)
        simpa only [hv, hv', Option.some_or] using h k
      · rw [find?_reverse_eq_none_iff.mpr hn, find?_reverse_eq_none_iff.mpr (hk ▸ hn)]
    · simpa only [find?_reverse_eq_none_iff.mpr hn, find?_reverse_eq_none_iff.mpr (hk ▸ hn),
        Option.none_or] using h k
  · rintro ⟨hf, he⟩ k
    rw [hf k]
    by_cases hn : k ∈ fs.keys
    · obtain ⟨v, hv⟩ := exists_find?_reverse (hk ▸ hn)
      rw [hv, Option.some_or, Option.some_or]
    · rw [he k hn]

/-- Of lists that are made block by block, each key is put by the last block that has it. -/
theorem ofList_flatMap_eq_iff {items : List β} {f g : β → Entries κ α} (tail : Entries κ α)
    (hk : ∀ b, (f b).keys = (g b).keys) :
    ofList (items.flatMap f ++ tail) = ofList (items.flatMap g ++ tail) ↔
      ∀ b later, b :: later <:+ items → ∀ k ∉ keys (later.flatMap f ++ tail),
        find? k (f b).reverse = find? k (g b).reverse := by
  have hkeys (bs : List β) : keys (bs.flatMap f ++ tail) = keys (bs.flatMap g ++ tail) := by
    induction bs with
    | nil => rfl
    | cons b bs ih =>
      simp only [List.flatMap_cons, List.append_assoc, keys_append] at ih ⊢
      rw [hk, ih]
  rw [ofList_eq_iff (hkeys items)]
  induction items with
  | nil => simp
  | cons b bs ih =>
    simp only [List.flatMap_cons, List.append_assoc]
    refine ((find?_reverse_append_eq_iff (hkeys bs)).trans (and_congr_left' ih)).trans ?_
    constructor
    · rintro ⟨hbs, hb⟩ b' later hs
      rcases List.suffix_cons_iff.mp hs with he | hs
      · obtain ⟨rfl, rfl⟩ := List.cons.inj he
        exact hb
      · exact hbs b' later hs
    · intro h
      exact ⟨fun b' later hs => h b' later (hs.trans (List.suffix_cons b bs)),
        h b bs List.suffix_rfl⟩

/-- What is found for a key comes of the last block that has it. -/
theorem exists_last_of_mem_keys {items : List β} {f : β → Entries κ α}
    (hk : k ∈ keys (items.flatMap f)) :
    ∃ before b after, items = before ++ b :: after ∧ k ∈ keys (f b) ∧
      (∀ c ∈ after, k ∉ keys (f c)) ∧
      find? k (ofList (items.flatMap f)) = find? k (f b).reverse := by
  induction items using List.reverseRecOn with
  | nil => cases hk
  | append_singleton items b ih =>
    rw [List.flatMap_append, List.flatMap_singleton] at hk ⊢
    rw [find?_ofList, List.reverse_append, find?_append]
    by_cases hb : k ∈ keys (f b)
    · obtain ⟨v, hv⟩ := exists_find?_reverse hb
      exact ⟨items, b, [], rfl, hb, fun c hc => (List.not_mem_nil hc).elim, by
        rw [hv, Option.some_or]⟩
    · rw [keys_append, List.mem_append] at hk
      obtain ⟨before, c, after, rfl, hc, hafter, hf⟩ := ih (hk.resolve_right hb)
      refine ⟨before, c, after ++ [b], by rw [List.append_assoc, List.cons_append], hc, ?_, ?_⟩
      · exact List.forall_mem_append.mpr ⟨hafter, List.forall_mem_singleton.mpr hb⟩
      · rw [find?_reverse_eq_none_iff.mpr hb, Option.none_or, ← find?_ofList, hf]

end RemoteBindings.Entries
