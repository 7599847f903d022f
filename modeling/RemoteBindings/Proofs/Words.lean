import Mathlib.Data.List.TakeWhile
import RemoteBindings.Text.Blank
import RemoteBindings.Text.Words

/-!
# Words and pieces

The words of a name are made of ASCII letters and digits (`isAlphanum_of_mem_wordsOf`), and so is a
name in Pascal case (`isAlphanum_of_mem_pascalCase`). A text that is cut has at least one piece, and
no cut goes through its last one (`not_cut_of_getLast?`).
-/

namespace RemoteBindings.Text

variable {c : Char} {cs word : List Char}

theorem isAlphanum_iff :
    c.isAlphanum = true ↔ c.isUpper = true ∨ c.isLower = true ∨ c.isDigit = true := by
  change ((c.isUpper || c.isLower) || c.isDigit) = true ↔ _
  rw [Bool.or_eq_true, Bool.or_eq_true, or_assoc]

theorem isAlphanum_of_isUpper (h : c.isUpper = true) : c.isAlphanum = true :=
  isAlphanum_iff.mpr (.inl h)

theorem isAlphanum_of_isLower (h : c.isLower = true) : c.isAlphanum = true :=
  isAlphanum_iff.mpr (.inr (.inl h))

theorem isAlphanum_of_isDigit (h : c.isDigit = true) : c.isAlphanum = true :=
  isAlphanum_iff.mpr (.inr (.inr h))

/-- Letters and digits are ASCII characters, so a property of them can be checked one by one. -/
theorem forall_isAlphanum {p : Char → Prop}
    (h : ∀ n < 128, (Char.ofNat n).isAlphanum = true → p (Char.ofNat n))
    (hc : c.isAlphanum = true) : p c := by
  have hlt : c.toNat < 128 := by
    rw [isAlphanum_iff] at hc
    -- Each of the three is an interval that ends at `z` or below.
    delta Char.isUpper Char.isLower Char.isDigit at hc
    simp only [Bool.and_eq_true, decide_eq_true_eq, ge_iff_le, UInt32.le_iff_toNat_le] at hc
    rcases hc with ⟨-, hc⟩ | ⟨-, hc⟩ | ⟨-, hc⟩ <;> exact Nat.lt_of_le_of_lt hc (by decide)
  have := h c.toNat hlt
  rw [Char.ofNat_toNat] at this
  exact this hc

theorem isAlphanum_toUpper (h : c.isAlphanum = true) : c.toUpper.isAlphanum = true :=
  forall_isAlphanum (p := fun c => c.toUpper.isAlphanum = true) (by decide) h

theorem isAlphanum_toLower (h : c.isAlphanum = true) : c.toLower.isAlphanum = true :=
  forall_isAlphanum (p := fun c => c.toLower.isAlphanum = true) (by decide) h

theorem isAlphanum_of_mem_cutCapitals (hc : c.isUpper = true) :
    ∀ d ∈ (cutCapitals c cs).1, d.isAlphanum = true := by
  have hrun : ∀ d ∈ cs.takeWhile Char.isUpper, d.isAlphanum = true := fun d hd =>
    isAlphanum_of_isUpper (List.mem_takeWhile_imp hd)
  have hsmall : ∀ d ∈ (cs.dropWhile Char.isUpper).takeWhile Char.isLower, d.isAlphanum = true :=
    fun d hd => isAlphanum_of_isLower (List.mem_takeWhile_imp hd)
  unfold cutCapitals
  simp only
  split
  · exact List.forall_mem_cons.mpr ⟨isAlphanum_of_isUpper hc, hrun⟩
  · split
    · exact List.forall_mem_cons.mpr ⟨isAlphanum_of_isUpper hc, hsmall⟩
    · exact List.forall_mem_cons.mpr ⟨isAlphanum_of_isUpper hc, fun d hd =>
        hrun d (List.dropLast_subset _ hd)⟩

theorem isAlphanum_of_mem_cutWord : ∀ d ∈ (cutWord c cs).1, d.isAlphanum = true := by
  unfold cutWord
  split
  · rename_i hc
    exact isAlphanum_of_mem_cutCapitals hc
  · split
    · rename_i hc
      exact List.forall_mem_cons.mpr ⟨isAlphanum_of_isLower hc, fun d hd =>
        isAlphanum_of_isLower (List.mem_takeWhile_imp hd)⟩
    · split
      · rename_i hc
        exact List.forall_mem_cons.mpr ⟨isAlphanum_of_isDigit hc, fun d hd =>
          isAlphanum_of_isDigit (List.mem_takeWhile_imp hd)⟩
      · exact fun d hd => (List.not_mem_nil hd).elim

theorem isAlphanum_of_mem_wordsOf (hw : word ∈ wordsOf cs) : ∀ d ∈ word, d.isAlphanum = true := by
  induction cs using wordsOf.induct with
  | case1 => simp [wordsOf] at hw
  | case2 c cs hn ih =>
    rw [wordsOf, hn] at hw
    exact ih hw
  | case3 c cs hn ih =>
    rw [wordsOf] at hw
    split at hw
    · exact ih hw
    · rcases List.mem_cons.mp hw with rfl | hw
      · exact isAlphanum_of_mem_cutWord
      · exact ih hw

theorem isAlphanum_of_mem_capitalWord (h : ∀ d ∈ word, d.isAlphanum = true) :
    ∀ d ∈ capitalWord word, d.isAlphanum = true := by
  cases word with
  | nil => exact h
  | cons c cs =>
    obtain ⟨hc, hcs⟩ := List.forall_mem_cons.mp h
    refine List.forall_mem_cons.mpr ⟨isAlphanum_toUpper hc, ?_⟩
    exact List.forall_mem_map.mpr fun d hd => isAlphanum_toLower (hcs d hd)

theorem isAlphanum_of_mem_pascalCase {s : String} :
    ∀ d ∈ (pascalCase s).toList, d.isAlphanum = true := by
  intro d hd
  rw [pascalCase, String.toList_ofList, pascalChars] at hd
  obtain ⟨word, hw, hd⟩ := List.mem_flatMap.mp hd
  exact isAlphanum_of_mem_capitalWord (isAlphanum_of_mem_wordsOf hw) d hd

/-! ## Pieces -/

theorem splitAtChars_of_forall {p : Char → Bool} {cs : List Char} (h : ∀ c ∈ cs, p c = false) :
    splitAtChars p cs = [cs] := by
  induction cs with
  | nil => rfl
  | cons c cs ih =>
    obtain ⟨hc, hcs⟩ := List.forall_mem_cons.mp h
    simp only [splitAtChars, hc, ih hcs]
    rfl

theorem splitAtChars_ne_nil (p : Char → Bool) (cs : List Char) : splitAtChars p cs ≠ [] := by
  cases cs with
  | nil => exact List.cons_ne_nil _ _
  | cons c cs =>
    unfold splitAtChars
    split
    · exact List.cons_ne_nil _ _
    · split <;> exact List.cons_ne_nil _ _

/-- The last piece of a text is cut no more. -/
theorem not_cut_of_getLast? {p : Char → Bool} {cs piece : List Char}
    (h : (splitAtChars p cs).getLast? = some piece) : ∀ c ∈ piece, p c = false := by
  induction cs generalizing piece with
  | nil =>
    obtain rfl : [] = piece := Option.some.inj h
    exact fun c hc => (List.not_mem_nil hc).elim
  | cons c cs ih =>
    unfold splitAtChars at h
    split at h
    · rw [List.getLast?_cons_of_ne_nil (splitAtChars_ne_nil p cs)] at h
      exact ih h
    · rename_i hc
      split at h
      · exact absurd ‹_› (splitAtChars_ne_nil p cs)
      · rename_i first pieces he
        rw [he] at ih
        cases pieces with
        | nil =>
          obtain rfl : c :: first = piece := Option.some.inj h
          exact List.forall_mem_cons.mpr ⟨by simpa using hc, ih rfl⟩
        | cons second pieces => exact ih h

end RemoteBindings.Text
