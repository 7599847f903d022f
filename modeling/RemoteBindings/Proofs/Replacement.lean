import Mathlib.Data.List.Infix
import RemoteBindings.Text.Replace

/-!
# Where a text is replaced

A text occurs in another exactly if it is a part of it (`occursIn_iff_isInfix`), and then the first
occurrence is replaced where it stands (`exists_replaceFirstChars_eq`). A text without a certain
character does not reach across it: it occurs on one of its sides (`occursIn_append_cons`), and if
not on the left, it is replaced on the right (`replaceFirstChars_append_cons`). A text whose last
character is in it only once does not meet another occurrence of itself, so the first occurrence is
the one behind a text in which there is none (`replaceFirstChars_concat`).
-/

namespace RemoteBindings.Text

variable {old new part cs xs ys : List Char} {c : Char}

theorem occursIn_iff_isInfix : occursIn part cs = true ↔ part <:+: cs := by
  induction cs with
  | nil => rw [occursIn, List.isEmpty_iff, List.infix_nil]
  | cons c cs ih =>
    rw [occursIn, Bool.or_eq_true, List.isPrefixOf_iff_prefix, ih, List.infix_cons_iff]

theorem prefix_append_cons_iff (hc : c ∉ part) : part <+: xs ++ c :: ys ↔ part <+: xs := by
  refine ⟨fun h => ?_, fun h => h.trans (List.prefix_append _ _)⟩
  rcases List.prefix_or_prefix_of_prefix h (List.prefix_append xs (c :: ys)) with hx | hx
  · exact hx
  -- A text that goes on behind `xs` would hold the character.
  · obtain ⟨rest, rfl⟩ := hx
    cases rest with
    | nil => rw [List.append_nil]
    | cons d rest =>
      obtain ⟨rfl, -⟩ := List.cons_prefix_cons.mp ((List.prefix_append_right_inj xs).mp h)
      exact absurd (List.mem_append_right xs List.mem_cons_self) hc

theorem not_isPrefixOf_cons (hne : part ≠ []) (hc : c ∉ part) :
    part.isPrefixOf (c :: ys) = false := by
  rw [Bool.eq_false_iff, ne_eq, List.isPrefixOf_iff_prefix]
  intro h
  have hnil : part <+: [] ++ c :: ys := h
  exact hne (List.prefix_nil.mp ((prefix_append_cons_iff hc).mp hnil))

theorem occursIn_append_cons (hne : part ≠ []) (hc : c ∉ part) :
    occursIn part (xs ++ c :: ys) = (occursIn part xs || occursIn part ys) := by
  induction xs with
  | nil =>
    have hp : part.isPrefixOf (c :: ys) = false := not_isPrefixOf_cons hne hc
    rw [List.nil_append, occursIn, occursIn, hp, Bool.eq_false_iff.mpr (mt List.isEmpty_iff.mp hne)]
  | cons x xs ih =>
    have hp : part.isPrefixOf (x :: xs ++ c :: ys) = part.isPrefixOf (x :: xs) := by
      rw [Bool.eq_iff_iff, List.isPrefixOf_iff_prefix, List.isPrefixOf_iff_prefix,
        prefix_append_cons_iff hc]
    rw [List.cons_append] at hp ⊢
    rw [occursIn, occursIn, hp, ih, Bool.or_assoc]

/-- The first occurrence is replaced where it stands. -/
theorem exists_replaceFirstChars_eq (new : List Char) (h : occursIn old cs = true) :
    ∃ before after, cs = before ++ (old ++ after) ∧
      replaceFirstChars old new cs = before ++ (new ++ after) := by
  induction cs with
  | nil =>
    rw [occursIn, List.isEmpty_iff] at h
    exact ⟨[], [], by simp [h], by simp [replaceFirstChars, h]⟩
  | cons c cs ih =>
    rw [replaceFirstChars]
    split
    · rename_i hp
      obtain ⟨after, ha⟩ := List.isPrefixOf_iff_prefix.mp hp
      exact ⟨[], after, ha.symm, by rw [← ha, List.drop_left, List.nil_append]⟩
    · rename_i hp
      rw [occursIn, Bool.eq_false_iff.mpr hp, Bool.false_or] at h
      obtain ⟨before, after, hcs, hr⟩ := ih h
      exact ⟨c :: before, after, by rw [hcs, List.cons_append], by rw [hr, List.cons_append]⟩

theorem replaceFirstChars_of_not_isInfix (hne : old ≠ []) (h : ¬ old <:+: cs) :
    replaceFirstChars old new cs = cs := by
  induction cs with
  | nil => rw [replaceFirstChars, if_neg (mt List.isEmpty_iff.mp hne)]
  | cons c cs ih =>
    rw [List.infix_cons_iff, not_or] at h
    rw [replaceFirstChars, if_neg (mt List.isPrefixOf_iff_prefix.mp h.1), ih h.2]

/-- There is a first occurrence. -/
theorem exists_first_of_isInfix (hne : old ≠ []) (h : old <:+: cs) :
    ∃ before after, cs = before ++ (old ++ after) ∧ ¬ old <:+: before := by
  have hnil : ¬ old <:+: [] := mt List.infix_nil.mp hne
  induction cs with
  | nil => exact absurd h hnil
  | cons c cs ih =>
    by_cases hp : old <+: c :: cs
    · obtain ⟨after, ha⟩ := hp
      exact ⟨[], after, ha.symm, hnil⟩
    · obtain ⟨before, after, rfl, hb⟩ := ih ((List.infix_cons_iff.mp h).resolve_left hp)
      refine ⟨c :: before, after, rfl, fun hi => ?_⟩
      rcases List.infix_cons_iff.mp hi with hc | hc
      · exact hp (hc.trans (List.prefix_append (c :: before) _))
      · exact hb hc

theorem replaceFirstChars_concat (hc : c ∉ part) (h : ¬ part ++ [c] <:+: xs) :
    replaceFirstChars (part ++ [c]) new (xs ++ (part ++ c :: ys)) = xs ++ (new ++ ys) := by
  induction xs with
  | nil =>
    have hcs : [] ++ (part ++ c :: ys) = (part ++ [c]) ++ ys := by
      rw [List.nil_append, List.append_assoc, List.singleton_append]
    rw [hcs]
    cases hp : part ++ [c] ++ ys with
    | nil => simp at hp
    | cons d rest =>
      rw [replaceFirstChars, ← hp, if_pos (List.isPrefixOf_iff_prefix.mpr (List.prefix_append _ _)),
        List.drop_left, List.nil_append]
  | cons x xs ih =>
    rw [List.infix_cons_iff, not_or] at h
    have hp : ¬ part ++ [c] <+: x :: xs ++ (part ++ c :: ys) := by
      intro hp
      rcases List.prefix_or_prefix_of_prefix hp (List.prefix_append (x :: xs) _) with hx | hx
      · exact h.1 hx
      -- An occurrence that ends behind `x` would have its last character in the other one.
      · obtain ⟨rest, hr⟩ := hx
        have hlen := congrArg List.length hr
        simp only [List.length_append, List.length_cons, List.length_nil] at hlen
        rw [← hr, List.prefix_append_right_inj] at hp
        have hrest : rest <+: part :=
          List.prefix_of_prefix_length_le hp (List.prefix_append _ _) (by omega)
        rcases List.eq_nil_or_concat rest with rfl | ⟨front, d, rfl⟩
        · exact h.1 ⟨[], by rw [← hr, List.append_nil, List.append_nil]⟩
        · rw [List.concat_eq_append] at hr hrest
          rw [← List.append_assoc] at hr
          obtain rfl : d = c := List.singleton_inj.mp (List.append_inj' hr rfl).2
          exact hc (hrest.subset (List.mem_append_right _ List.mem_cons_self))
    rw [List.cons_append] at hp
    rw [List.cons_append, replaceFirstChars, if_neg (mt List.isPrefixOf_iff_prefix.mp hp), ih h.2,
      List.cons_append]

/-- What is not in the replaced part stays. -/
theorem mem_replaceFirstChars (hc : c ∉ old) (h : c ∈ cs) : c ∈ replaceFirstChars old new cs := by
  induction cs with
  | nil => cases h
  | cons x cs ih =>
    unfold replaceFirstChars
    split
    · rename_i hp
      obtain ⟨rest, hr⟩ := List.isPrefixOf_iff_prefix.mp hp
      rw [← hr, List.drop_left]
      rw [← hr] at h
      exact List.mem_append_right _ ((List.mem_append.mp h).resolve_left hc)
    · rcases List.mem_cons.mp h with rfl | h
      · exact List.mem_cons_self
      · exact List.mem_cons_of_mem _ (ih h)

/-- What comes behind the first occurrence does not matter. -/
theorem replaceFirstChars_append (hne : old ≠ []) (h : occursIn old xs = true) :
    replaceFirstChars old new (xs ++ ys) = replaceFirstChars old new xs ++ ys := by
  induction xs with
  | nil => exact absurd (List.isEmpty_iff.mp h) hne
  | cons x xs ih =>
    have hlen : old.length ≤ (x :: xs).length := (occursIn_iff_isInfix.mp h).length_le
    have hp : old.isPrefixOf (x :: (xs ++ ys)) = old.isPrefixOf (x :: xs) := by
      rw [Bool.eq_iff_iff, List.isPrefixOf_iff_prefix, List.isPrefixOf_iff_prefix]
      exact ⟨fun h => List.prefix_of_prefix_length_le h (List.prefix_append (x :: xs) ys) hlen,
        fun h => h.trans (List.prefix_append (x :: xs) ys)⟩
    rw [List.cons_append, replaceFirstChars, replaceFirstChars, hp]
    split
    · rw [← List.cons_append, List.drop_append_of_le_length hlen, List.append_assoc]
    · rename_i hx
      rw [occursIn, Bool.eq_false_iff.mpr hx, Bool.false_or] at h
      rw [ih h, List.cons_append]

/-- A text that does not occur on the left of the character is replaced on its right. -/
theorem replaceFirstChars_append_cons (hne : old ≠ []) (hc : c ∉ old)
    (h : occursIn old xs = false) :
    replaceFirstChars old new (xs ++ c :: ys) = xs ++ c :: replaceFirstChars old new ys := by
  induction xs with
  | nil =>
    have hp : ¬ old.isPrefixOf (c :: ys) = true := Bool.eq_false_iff.mp (not_isPrefixOf_cons hne hc)
    rw [List.nil_append, replaceFirstChars, if_neg hp, List.nil_append]
  | cons x xs ih =>
    rw [occursIn, Bool.or_eq_false_iff] at h
    have hp : ¬ old.isPrefixOf (x :: (xs ++ c :: ys)) = true := by
      rw [List.isPrefixOf_iff_prefix, ← List.cons_append, prefix_append_cons_iff hc,
        ← List.isPrefixOf_iff_prefix, h.1]
      exact Bool.false_ne_true
    rw [List.cons_append, replaceFirstChars, if_neg hp, ih h.2, List.cons_append]

end RemoteBindings.Text
