import RemoteBindings.Proofs.Entries

/-!
# The first of equal items

A list that grows at its end and leaves out what it holds already is `List.eraseDups` of all that
came up (`eraseDups_concat`, `foldl_unlessPresent_eq`). Its items stand in the order in which they
came up first (`pairwise_idxOf_eraseDups_filter`). So it is with entries that are left out if their
key has come up (`keys_foldl_unlessKey`); each key keeps its first value
(`find?_of_mem_foldl_unlessKey`).
-/

namespace RemoteBindings

variable {α : Type} [BEq α] [LawfulBEq α]

theorem contains_eraseDups (xs : List α) (x : α) : xs.eraseDups.contains x = xs.contains x := by
  rw [Bool.eq_iff_iff, List.contains_iff_mem, List.contains_iff_mem, List.mem_eraseDups]

/-- An item that came up before adds nothing. -/
theorem eraseDups_concat (xs : List α) (x : α) :
    (xs ++ [x]).eraseDups = if xs.contains x then xs.eraseDups else xs.eraseDups ++ [x] := by
  rw [List.eraseDups_append, List.removeAll, List.filter_singleton, List.elem_eq_contains]
  cases xs.contains x <;> simp [List.eraseDups_cons]

theorem foldl_unlessPresent_eq (p : α → Bool) (xs : List α) :
    xs.foldl (fun seen x => if p x && !seen.contains x then seen ++ [x] else seen) [] =
      (xs.filter p).eraseDups := by
  induction xs using List.reverseRecOn with
  | nil => rfl
  | append_singleton xs x ih =>
    rw [List.foldl_concat, ih, List.filter_append, List.filter_singleton]
    cases p x with
    | false => simp
    | true =>
      rw [cond_true, eraseDups_concat, contains_eraseDups, Bool.true_and]
      cases (xs.filter p).contains x <;> rfl

/-- Of the items that pass a test, the one that came up earlier stands earlier. -/
theorem pairwise_idxOf_eraseDups_filter (p : α → Bool) (xs : List α) :
    (xs.filter p).eraseDups.Pairwise fun a b => xs.idxOf a < xs.idxOf b := by
  induction xs using List.reverseRecOn with
  | nil => exact .nil
  | append_singleton xs x ih =>
    have hmem {a : α} (ha : a ∈ (xs.filter p).eraseDups) : a ∈ xs :=
      (List.mem_filter.mp (List.mem_eraseDups.mp ha)).1
    have ih : (xs.filter p).eraseDups.Pairwise fun a b =>
        (xs ++ [x]).idxOf a < (xs ++ [x]).idxOf b := by
      refine ih.imp_of_mem fun {a b} ha hb hab => ?_
      rwa [List.idxOf_append_of_mem (hmem ha), List.idxOf_append_of_mem (hmem hb)]
    rw [List.filter_append, List.filter_singleton]
    cases hp : p x with
    | false => simpa using ih
    | true =>
      rw [cond_true, eraseDups_concat]
      split
      · exact ih
      · rename_i hx
        have hx : x ∉ xs := fun h =>
          hx (List.contains_iff_mem.mpr (List.mem_filter.mpr ⟨h, hp⟩))
        refine List.pairwise_append.mpr ⟨ih, List.pairwise_singleton _ _, fun a ha b hb => ?_⟩
        rw [List.mem_singleton.mp hb, List.idxOf_append_of_mem (hmem ha),
          List.idxOf_append_of_notMem hx]
        exact Nat.lt_add_right _ (List.idxOf_lt_length_of_mem (hmem ha))

/-! ## Entries -/

section Entries

variable {κ β : Type} [BEq κ] [LawfulBEq κ]

theorem hasKey_eq_contains (k : κ) (es : Entries κ β) :
    Entries.hasKey k es = es.keys.contains k := by
  rw [Bool.eq_iff_iff, Entries.hasKey, List.any_eq_true, List.contains_iff_mem, Entries.keys,
    List.mem_map]
  simp only [beq_iff_eq]

theorem keys_foldl_unlessKey (es : Entries κ β) :
    Entries.keys (es.foldl (fun acc e => if Entries.hasKey e.1 acc then acc else acc ++ [e]) []) =
      es.keys.eraseDups := by
  induction es using List.reverseRecOn with
  | nil => rfl
  | append_singleton es e ih =>
    rw [List.foldl_concat, Entries.keys_append, Entries.keys_cons, Entries.keys_nil,
      eraseDups_concat, hasKey_eq_contains, ih, contains_eraseDups]
    split
    · exact ih
    · rw [Entries.keys_append, ih]
      rfl

/-- The first value of a key is kept. -/
theorem find?_of_mem_foldl_unlessKey {e : κ × β} (es : Entries κ β)
    (h : e ∈ es.foldl (fun acc e => if Entries.hasKey e.1 acc then acc else acc ++ [e]) []) :
    Entries.find? e.1 es = some e.2 := by
  induction es using List.reverseRecOn with
  | nil => cases h
  | append_singleton es x ih =>
    rw [List.foldl_concat, hasKey_eq_contains, keys_foldl_unlessKey, contains_eraseDups] at h
    rw [Entries.find?_append]
    split at h
    · rw [ih h, Option.some_or]
    · rename_i hx
      rcases List.mem_append.mp h with h | h
      · rw [ih h, Option.some_or]
      · have hx : x.1 ∉ Entries.keys es := mt List.contains_iff_mem.mpr hx
        rw [List.mem_singleton.mp h, Entries.find?_eq_none_iff.mpr hx]
        simp [Entries.find?]

end Entries

end RemoteBindings
