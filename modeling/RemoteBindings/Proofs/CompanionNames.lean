import RemoteBindings.Proofs.Replacement
import RemoteBindings.Proofs.Scopes

/-!
# Names of companions

An accessor that creates has a companion, whose name is `manyName` of its own. Names are those of
the scope and of what stands below it (`IsBelow`), with one name for two operations that remove all
(`apiName_eq_iff`). The companion of an operation that creates is the one of another operation,
`manyName` of the first (`manyName_apiName`). But in a scope that has `create` in its own name it is
the name of the scope that is replaced, and the companion is not below the scope any more
(`not_isBelow_manyName_append`).
-/

namespace RemoteBindings

variable {s op op' k t : String}

/-- A name in the namespace of a scope: the scope itself, or what stands below it. -/
def IsBelow (scope k : String) : Prop := k = scope ∨ ∃ rest, k = scope ++ "." ++ rest

/-! ## Names with `create` -/

theorem contains_dot : Text.contains (s ++ "." ++ op) "create" =
    (Text.contains s "create" || Text.contains op "create") := by
  have hl : (s ++ "." ++ op).toList = s.toList ++ '.' :: op.toList := by
    simp
  rw [Text.contains, hl, Text.occursIn_append_cons (by decide) (by decide)]
  rfl

theorem manyName_append (h : Text.contains s "create" = true) (t : String) :
    manyName (s ++ t) = manyName s ++ t := by
  rw [manyName, manyName, Text.replaceFirst, Text.replaceFirst, String.toList_append,
    Text.replaceFirstChars_append (by decide) h, String.ofList_append, String.ofList_toList]

theorem manyName_dot (h : Text.contains s "create" = false) :
    manyName (s ++ "." ++ op) = s ++ "." ++ manyName op := by
  have hl : (s ++ "." ++ op).toList = s.toList ++ '.' :: op.toList := by
    simp
  rw [manyName, manyName, Text.replaceFirst, Text.replaceFirst, hl,
    Text.replaceFirstChars_append_cons (by decide) (by decide) h, ← String.toList_inj]
  simp

theorem exists_manyName_eq (h : Text.contains s "create" = true) :
    ∃ before after, s = before ++ ("create" ++ after) ∧
      manyName s = before ++ ("createMany" ++ after) := by
  obtain ⟨before, after, hs, hm⟩ := Text.exists_replaceFirstChars_eq "createMany".toList h
  refine ⟨String.ofList before, String.ofList after, ?_, ?_⟩
  · rw [← String.toList_inj, hs]
    simp
  · rw [manyName, Text.replaceFirst, hm, ← String.toList_inj]
    simp

theorem contains_manyName (h : Text.contains s "create" = true) :
    Text.contains (manyName s) "create" = true := by
  obtain ⟨before, after, -, hm⟩ := exists_manyName_eq h
  rw [Text.contains, Text.occursIn_iff_isInfix, hm]
  exact ⟨before.toList, "Many".toList ++ after.toList, by simp⟩

/-- The only operation whose companion is `createMany`. -/
theorem manyName_eq_createMany_iff (h : Text.contains op "create" = true) :
    manyName op = "createMany" ↔ op = "create" := by
  refine ⟨fun he => ?_, fun he => he ▸ rfl⟩
  obtain ⟨before, after, rfl, hm⟩ := exists_manyName_eq h
  have hlen := congrArg String.length (hm.symm.trans he)
  simp only [String.length_append] at hlen
  obtain rfl : before = "" := String.length_eq_zero_iff.mp (by omega)
  obtain rfl : after = "" := String.length_eq_zero_iff.mp (by omega)
  rfl

/-- A word without a certain character that is put in front of a text moves the character on. -/
theorem append_ne_append_cons {w post rest rest' : List Char} {c : Char} (hne : w ≠ [])
    (hc : c ∉ w) : w ++ (post ++ rest) ≠ post ++ c :: rest' := by
  obtain ⟨a, w, rfl⟩ := List.exists_cons_of_ne_nil hne
  induction post generalizing a w with
  | nil =>
    intro h
    exact hc ((List.cons.inj h).1 ▸ List.mem_cons_self)
  | cons d post ih =>
    intro h
    -- The word goes on with its first letter behind it.
    simp only [List.cons_append, List.cons.injEq] at h
    obtain ⟨rfl, h⟩ := h
    have hw : w ++ [a] ≠ [] := List.append_ne_nil_of_right_ne_nil _ (List.cons_ne_nil _ _)
    obtain ⟨b, w', hb⟩ := List.exists_cons_of_ne_nil hw
    refine ih b w' (List.cons_ne_nil _ _) (fun hm => hc ?_) ?_
    · rw [← hb] at hm
      simpa [or_comm] using hm
    · rw [← hb, ← h, List.append_assoc, List.singleton_append]

/-- With `create` in the name of the scope, it is the scope that is replaced. -/
theorem not_isBelow_manyName_append (h : Text.contains s "create" = true) (t : String) :
    ¬ IsBelow s (manyName s ++ t) := by
  obtain ⟨before, after, hs, hm⟩ := exists_manyName_eq h
  rintro (he | ⟨rest, he⟩)
  · have hlen := congrArg String.length he
    rw [hm, hs] at hlen
    simp only [String.length_append] at hlen
    have h6 : "create".length = 6 := rfl
    have h10 : "createMany".length = 10 := rfl
    omega
  · rw [hm, hs, ← String.toList_inj] at he
    have hne : "Many".toList ++ (after.toList ++ t.toList) ≠ after.toList ++ '.' :: rest.toList :=
      append_ne_append_cons (by decide) (by decide)
    exact hne (by simpa using he)

theorem manyName_ne (h : Text.contains s "create" = true) : manyName s ≠ s := by
  have hb := not_isBelow_manyName_append h ""
  rw [String.append_empty] at hb
  exact fun he => hb (.inl he)

/-! ## Names of accessors -/

namespace AccessorName

variable {a : AccessorName}

/-- Two operations that remove all share a name. -/
def removals : List String := ["delete", "destroyAll"]

/-- Whether accessors of one scope with these operations have the same name. -/
def SharesName (op op' : String) : Prop := op = op' ∨ op ∈ removals ∧ op' ∈ removals

instance decidableSharesName (op op' : String) : Decidable (SharesName op op') :=
  inferInstanceAs (Decidable (_ ∨ _))

theorem SharesName.symm (h : SharesName op op') : SharesName op' op :=
  h.imp Eq.symm And.symm

/-- The accessor whose name an accessor that creates has for its companion. -/
def many (a : AccessorName) : AccessorName := ⟨manyName a.op, a.scope⟩

theorem apiName_eq (a : AccessorName) :
    a.apiName = if a.op = "get" then a.scope
      else a.scope ++ "." ++ if a.op ∈ removals then "destroyAll" else a.op := by
  have hd : a.scope ++ ".destroyAll" = a.scope ++ "." ++ "destroyAll" := by
    rw [String.append_assoc]
    rfl
  unfold apiName
  split
  · rfl
  · by_cases h : a.op = "delete"
    · rw [if_pos h, if_pos (by simp [removals, h]), hd]
    · rw [if_neg h]
      by_cases h' : a.op = "destroyAll"
      · rw [if_pos (by simp [removals, h']), h']
      · rw [if_neg (by simp [removals, h, h'])]

theorem isBelow_apiName (a : AccessorName) : IsBelow a.scope a.apiName := by
  rw [apiName_eq]
  split
  · exact .inl rfl
  · exact .inr ⟨_, rfl⟩

theorem apiName_eq_iff :
    (⟨op, s⟩ : AccessorName).apiName = (⟨op', s⟩ : AccessorName).apiName ↔ SharesName op op' := by
  have hne (t : String) : s ++ "." ++ t ≠ s := fun h => by
    have hlen := congrArg String.length h
    simp only [String.length_append] at hlen
    have h1 : ".".length = 1 := rfl
    omega
  have hget : "get" ∉ removals := by decide
  have hall : "destroyAll" ∈ removals := by decide
  rw [apiName_eq, apiName_eq, SharesName]
  by_cases ho : op = "get" <;> by_cases ho' : op' = "get"
  · simp [ho, ho']
  · simp only [ho, ho', if_true, if_false, hget, false_and, or_false]
    exact iff_of_false (fun h => hne _ h.symm) fun h => ho' h.symm
  · simp only [ho, ho', if_true, if_false, hget, and_false, or_false]
    exact iff_of_false (hne _) id
  · simp only [ho, ho', if_false, String.append_right_inj]
    by_cases hr : op ∈ removals <;> by_cases hr' : op' ∈ removals
    · simp [hr, hr']
    · simp only [hr, hr', if_true, if_false, and_false, or_false]
      exact iff_of_false (fun h => hr' (h ▸ hall)) fun h => hr' (h ▸ hr)
    · simp only [hr, hr', if_true, if_false, and_true, or_false]
      exact iff_of_false (fun h => hr (h ▸ hall)) fun h => hr (h ▸ hr')
    · simp [hr, hr']

theorem contains_apiName (a : AccessorName) : Text.contains a.apiName "create" =
    (Text.contains a.scope "create" || Text.contains a.op "create") := by
  rw [apiName_eq]
  split
  · rename_i h
    have hg : Text.contains "get" "create" = false := by decide
    rw [h, hg, Bool.or_false]
  · rw [contains_dot]
    split
    · rename_i h
      have hr : ∀ op ∈ removals, Text.contains op "create" = false := by decide
      rw [hr _ h, hr "destroyAll" (by decide)]
    · rfl

theorem not_mem_removals (h : Text.contains op "create" = true) : op ∉ removals := by
  have hplain : ∀ op ∈ removals, Text.contains op "create" = false := by decide
  exact fun hm => by simp [hplain _ hm] at h

theorem sharesName_iff (h : Text.contains op "create" = true) : SharesName op op' ↔ op = op' :=
  or_iff_left fun hr => not_mem_removals h hr.1

/-- An operation that creates has a plain name. -/
theorem apiName_of_contains (h : Text.contains a.op "create" = true) :
    a.apiName = a.scope ++ "." ++ a.op := by
  have hget : a.op ≠ "get" := fun he => by
    rw [he] at h
    exact absurd h (by decide)
  rw [apiName_eq, if_neg hget, if_neg (not_mem_removals h)]

/-- The name of a companion is that of the accessor with the other operation. -/
theorem manyName_apiName (hs : Text.contains a.scope "create" = false)
    (ho : Text.contains a.op "create" = true) : manyName a.apiName = a.many.apiName := by
  rw [apiName_of_contains ho, manyName_dot hs]
  exact (apiName_of_contains (a := a.many) (contains_manyName ho)).symm

/-- Where the name of a companion is below the scope, it is the other operation that it has. -/
theorem isBelow_manyName_apiName_iff (h : Text.contains a.apiName "create" = true) :
    IsBelow a.scope (manyName a.apiName) ↔ Text.contains a.scope "create" = false := by
  cases hs : Text.contains a.scope "create" with
  | false =>
    rw [contains_apiName, hs, Bool.false_or] at h
    rw [manyName_apiName hs h]
    exact iff_of_true (isBelow_apiName a.many) rfl
  | true =>
    refine iff_of_false ?_ (by decide)
    rcases isBelow_apiName a with he | ⟨rest, he⟩
    · rw [he, ← String.append_empty (s := manyName a.scope)]
      exact not_isBelow_manyName_append hs ""
    · rw [he, String.append_assoc, manyName_append hs]
      exact not_isBelow_manyName_append hs _

end AccessorName

end RemoteBindings
