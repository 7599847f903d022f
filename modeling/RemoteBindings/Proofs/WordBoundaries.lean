import RemoteBindings.Proofs.Words

/-!
# Boundaries of words

A word ends between two letters or digits that stand next to each other unless they are `Joined`,
which only these two and the character behind them decide. `pieces` cuts a text by that rule alone,
character by character, and cuts it into the words (`wordsOf_eq_pieces`). So the words hold all
letters and digits of the text, and two of these are in one word exactly if all characters from the
one to the other are joined (`splitWords_boundaries`).
-/

namespace RemoteBindings.Text

/-! ## The rule -/

/-- Whether no word ends between two letters or digits, where the text goes on with `after`. A
capital leaves a run of capitals for the small letter behind it. -/
def Joined (a b : Char) (after : List Char) : Prop :=
  (a.isLower = true ∧ b.isLower = true) ∨ (a.isDigit = true ∧ b.isDigit = true) ∨
    (a.isUpper = true ∧ b.isLower = true) ∨
    (a.isUpper = true ∧ b.isUpper = true ∧ ∀ c ∈ after.head?, c.isLower = false)

instance (a b : Char) (after : List Char) : Decidable (Joined a b after) :=
  have : Decidable (∀ c ∈ after.head?, c.isLower = false) := Option.decidableForallMem _
  inferInstanceAs (Decidable (_ ∨ _ ∨ _ ∨ (_ ∧ _ ∧ _)))

/-- Whether a character goes on with the word that begins behind it. -/
def JoinsNext (a : Char) : List Char → Prop
  | [] => False
  | b :: after => b.isAlphanum = true ∧ Joined a b after

instance (a : Char) : (cs : List Char) → Decidable (JoinsNext a cs)
  | [] => inferInstanceAs (Decidable False)
  | b :: after => inferInstanceAs (Decidable (b.isAlphanum = true ∧ Joined a b after))

/-- Puts a character in front of the first word. -/
def extendFirst (c : Char) : List (List Char) → List (List Char)
  | [] => [[c]]
  | w :: ws => (c :: w) :: ws

/-- The words of a text by the rule for two neighbours. -/
def pieces : List Char → List (List Char)
  | [] => []
  | c :: cs =>
    if c.isAlphanum then
      if JoinsNext c cs then extendFirst c (pieces cs) else [c] :: pieces cs
    else pieces cs

variable {a b c d x : Char} {cs w : List Char} {ws : List (List Char)}

theorem not_isLower_of_isUpper (h : c.isUpper = true) : c.isLower = false := by
  delta Char.isUpper at h
  delta Char.isLower
  simp [UInt32.le_iff_toNat_le] at h ⊢
  omega

theorem not_isDigit_of_isUpper (h : c.isUpper = true) : c.isDigit = false := by
  delta Char.isUpper at h
  delta Char.isDigit
  simp [UInt32.le_iff_toNat_le] at h ⊢
  omega

theorem not_isDigit_of_isLower (h : c.isLower = true) : c.isDigit = false := by
  delta Char.isLower at h
  delta Char.isDigit
  simp [UInt32.le_iff_toNat_le] at h ⊢
  omega

theorem pieces_cons_of_joinsNext (hc : c.isAlphanum = true) (h : JoinsNext c cs) :
    pieces (c :: cs) = extendFirst c (pieces cs) := by
  rw [pieces, if_pos hc, if_pos h]

theorem pieces_cons_of_not_joinsNext (hc : c.isAlphanum = true) (h : ¬ JoinsNext c cs) :
    pieces (c :: cs) = [c] :: pieces cs := by
  rw [pieces, if_pos hc, if_neg h]

theorem pieces_cons_of_separator (hc : ¬ c.isAlphanum = true) : pieces (c :: cs) = pieces cs := by
  rw [pieces, if_neg hc]

/-- The first piece begins with the first letter or digit. -/
theorem exists_pieces_eq_cons (hc : c.isAlphanum = true) (cs : List Char) :
    ∃ w ws, pieces (c :: cs) = (c :: w) :: ws := by
  by_cases hj : JoinsNext c cs
  · rw [pieces_cons_of_joinsNext hc hj]
    cases pieces cs with
    | nil => exact ⟨[], [], rfl⟩
    | cons v vs => exact ⟨v, vs, rfl⟩
  · exact ⟨[], pieces cs, pieces_cons_of_not_joinsNext hc hj⟩

/-! ## Words by the rule -/

theorem joinsNext_iff_of_isLower (hc : c.isLower = true) :
    JoinsNext c cs ↔ ∃ d ∈ cs.head?, d.isLower = true := by
  have hu : c.isUpper = false := by
    rw [Bool.eq_false_iff]
    intro hu
    rw [not_isLower_of_isUpper hu] at hc
    cases hc
  cases cs with
  | nil => simp [JoinsNext]
  | cons d ds => simpa [JoinsNext, Joined, hc, hu, not_isDigit_of_isLower hc] using
      isAlphanum_of_isLower

theorem joinsNext_iff_of_isDigit (hc : c.isDigit = true) :
    JoinsNext c cs ↔ ∃ d ∈ cs.head?, d.isDigit = true := by
  have hu : c.isUpper = false := by
    rw [Bool.eq_false_iff]
    intro hu
    rw [not_isDigit_of_isUpper hu] at hc
    cases hc
  have hl : c.isLower = false := by
    rw [Bool.eq_false_iff]
    intro hl
    rw [not_isDigit_of_isLower hl] at hc
    cases hc
  cases cs with
  | nil => simp [JoinsNext]
  | cons d ds => simpa [JoinsNext, Joined, hc, hu, hl] using isAlphanum_of_isDigit

/-- Where the rule for a kind of characters is that they stay together, they make one piece. -/
theorem pieces_run {p : Char → Bool} (hp : ∀ c, p c = true → c.isAlphanum = true)
    (hjoin : ∀ c cs, p c = true → (JoinsNext c cs ↔ ∃ d ∈ cs.head?, p d = true))
    (hc : p c = true) : pieces (c :: cs) = (c :: cs.takeWhile p) :: pieces (cs.dropWhile p) := by
  induction cs generalizing c with
  | nil =>
    rw [pieces_cons_of_not_joinsNext (hp c hc) (by simp [JoinsNext])]
    rfl
  | cons d ds ih =>
    by_cases hd : p d = true
    · rw [pieces_cons_of_joinsNext (hp c hc) ((hjoin c _ hc).mpr ⟨d, rfl, hd⟩), ih hd,
        List.takeWhile_cons_of_pos hd, List.dropWhile_cons_of_pos hd]
      rfl
    · rw [pieces_cons_of_not_joinsNext (hp c hc) (by simp [hjoin c _ hc, hd]),
        List.takeWhile_cons_of_neg hd, List.dropWhile_cons_of_neg hd]

theorem pieces_of_isLower (hc : c.isLower = true) :
    pieces (c :: cs) = (c :: cs.takeWhile Char.isLower) :: pieces (cs.dropWhile Char.isLower) :=
  pieces_run (fun _ => isAlphanum_of_isLower) (fun _ _ => joinsNext_iff_of_isLower) hc

theorem pieces_of_isDigit (hc : c.isDigit = true) :
    pieces (c :: cs) = (c :: cs.takeWhile Char.isDigit) :: pieces (cs.dropWhile Char.isDigit) :=
  pieces_run (fun _ => isAlphanum_of_isDigit) (fun _ _ => joinsNext_iff_of_isDigit) hc

theorem joined_iff_of_isUpper {after : List Char} (ha : a.isUpper = true) :
    Joined a b after ↔
      b.isLower = true ∨ (b.isUpper = true ∧ ∀ c ∈ after.head?, c.isLower = false) := by
  simp [Joined, ha, not_isLower_of_isUpper ha, not_isDigit_of_isUpper ha]

/-- A capital in front of a run of capitals that goes on goes on with it. -/
theorem cutCapitals_cons (hd : d.isUpper = true) (h : ∀ e ∈ cs.head?, e.isLower = false) :
    cutCapitals c (d :: cs) = (c :: (cutCapitals d cs).1, (cutCapitals d cs).2) := by
  have hsmall (hn : cs.takeWhile Char.isUpper = []) :
      (cs.dropWhile Char.isUpper).takeWhile Char.isLower = [] := by
    cases cs with
    | nil => rfl
    | cons e es =>
      have he : ¬ e.isUpper = true := by
        intro he
        rw [List.takeWhile_cons_of_pos he] at hn
        cases hn
      rw [List.dropWhile_cons_of_neg he, List.takeWhile_cons_of_neg]
      simp [h e rfl]
  unfold cutCapitals
  rw [List.takeWhile_cons_of_pos hd, List.dropWhile_cons_of_pos hd]
  simp only
  cases hs : (cs.dropWhile Char.isUpper).takeWhile Char.isLower with
  | nil => rfl
  | cons e es =>
    cases hr : cs.takeWhile Char.isUpper with
    | nil =>
      rw [hsmall hr] at hs
      cases hs
    | cons f fs =>
      simp [List.getLast?_cons_cons, List.getLast?_eq_some_getLast (List.cons_ne_nil f fs)]

theorem pieces_of_isUpper (hc : c.isUpper = true) :
    pieces (c :: cs) = (cutCapitals c cs).1 :: pieces (cutCapitals c cs).2 := by
  have halpha := isAlphanum_of_isUpper hc
  induction cs generalizing c with
  | nil =>
    rw [pieces_cons_of_not_joinsNext halpha (by simp [JoinsNext])]
    rfl
  | cons d ds ih =>
    by_cases hd : d.isUpper = true
    · have hdalpha := isAlphanum_of_isUpper hd
      by_cases hs : ∀ e ∈ ds.head?, e.isLower = false
      · have hjoin : JoinsNext c (d :: ds) :=
          ⟨hdalpha, (joined_iff_of_isUpper hc).mpr (.inr ⟨hd, hs⟩)⟩
        rw [pieces_cons_of_joinsNext halpha hjoin, ih hd hdalpha, cutCapitals_cons hd hs]
        rfl
      · -- `d` begins the word of the small letter behind it
        have hjoin : ¬ JoinsNext c (d :: ds) := fun h => by
          rcases (joined_iff_of_isUpper hc).mp h.2 with h | h
          · rw [not_isLower_of_isUpper hd] at h
            cases h
          · exact hs h.2
        rw [pieces_cons_of_not_joinsNext halpha hjoin]
        cases ds with
        | nil => simp at hs
        | cons e es =>
          have he : e.isLower = true := by simpa using hs
          have heu : ¬ e.isUpper = true := fun hu => by
            rw [not_isLower_of_isUpper hu] at he
            cases he
          simp [cutCapitals, hd, he, heu]
    · unfold cutCapitals
      rw [List.takeWhile_cons_of_neg hd, List.dropWhile_cons_of_neg hd]
      by_cases hl : d.isLower = true
      · have hjoin : JoinsNext c (d :: ds) :=
          ⟨isAlphanum_of_isLower hl, (joined_iff_of_isUpper hc).mpr (.inl hl)⟩
        rw [pieces_cons_of_joinsNext halpha hjoin, pieces_of_isLower hl]
        simp [hl, extendFirst]
      · have hjoin : ¬ JoinsNext c (d :: ds) := fun h =>
          ((joined_iff_of_isUpper hc).mp h.2).elim hl fun h => hd h.1
        rw [pieces_cons_of_not_joinsNext halpha hjoin]
        simp [hl]

theorem pieces_eq_cutWord (hc : c.isAlphanum = true) :
    pieces (c :: cs) = (cutWord c cs).1 :: pieces (cutWord c cs).2 := by
  unfold cutWord
  split
  · exact pieces_of_isUpper ‹_›
  · split
    · exact pieces_of_isLower ‹_›
    · split
      · exact pieces_of_isDigit ‹_›
      · rcases isAlphanum_iff.mp hc with h | h | h <;> contradiction

theorem cutWord_of_separator (hc : ¬ c.isAlphanum = true) : cutWord c cs = ([], cs) := by
  rw [isAlphanum_iff, not_or, not_or] at hc
  rw [cutWord, if_neg hc.1, if_neg hc.2.1, if_neg hc.2.2]

theorem cutWord_ne_nil (hc : c.isAlphanum = true) : (cutWord c cs).1 ≠ [] := by
  unfold cutWord
  split
  · unfold cutCapitals
    simp only
    split
    · exact List.cons_ne_nil _ _
    · split <;> exact List.cons_ne_nil _ _
  · split
    · exact List.cons_ne_nil _ _
    · split
      · exact List.cons_ne_nil _ _
      · rcases isAlphanum_iff.mp hc with h | h | h <;> contradiction

/-- The words of a text are cut by the rule for two neighbours. -/
theorem wordsOf_eq_pieces (cs : List Char) : wordsOf cs = pieces cs := by
  induction cs using wordsOf.induct with
  | case1 => rw [wordsOf, pieces]
  | case2 c cs hn ih =>
    have hc : ¬ c.isAlphanum = true := fun hc => cutWord_ne_nil hc hn
    rw [wordsOf, hn, pieces_cons_of_separator hc]
    rw [cutWord_of_separator hc] at ih ⊢
    exact ih
  | case3 c cs hn ih =>
    have hc : c.isAlphanum = true := by
      by_contra hc
      exact hn (by rw [cutWord_of_separator hc])
    rw [wordsOf, pieces_eq_cutWord hc, ← ih]
    split
    · contradiction
    · rfl

/-! ## Places in words -/

/-- The number of letters and digits in a text. -/
def alphanumCount (cs : List Char) : Nat := cs.countP Char.isAlphanum

theorem alphanumCount_cons :
    alphanumCount (c :: cs) = alphanumCount cs + if c.isAlphanum = true then 1 else 0 :=
  List.countP_cons

/-- Whether the characters with two numbers are in one word, where all characters of the words are
counted from zero. -/
def InOneWord (words : List (List Char)) (i j : Nat) : Prop :=
  ∃ before word after, words = before ++ word :: after ∧
    before.flatten.length ≤ i ∧ before.flatten.length ≤ j ∧
      i < before.flatten.length + word.length ∧ j < before.flatten.length + word.length

theorem flatten_extendFirst : (extendFirst c ws).flatten = c :: ws.flatten := by
  cases ws <;> rfl

theorem flatten_pieces (cs : List Char) : (pieces cs).flatten = cs.filter Char.isAlphanum := by
  induction cs with
  | nil => rfl
  | cons c cs ih =>
    by_cases hc : c.isAlphanum = true
    · rw [List.filter_cons_of_pos hc, ← ih]
      by_cases hj : JoinsNext c cs
      · rw [pieces_cons_of_joinsNext hc hj, flatten_extendFirst]
      · rw [pieces_cons_of_not_joinsNext hc hj]
        rfl
    · rw [List.filter_cons_of_neg hc, pieces_cons_of_separator hc, ih]

theorem length_flatten_pieces (cs : List Char) : (pieces cs).flatten.length = alphanumCount cs := by
  rw [flatten_pieces, alphanumCount, List.countP_eq_length_filter]

theorem ne_nil_of_mem_pieces (hw : w ∈ pieces cs) : w ≠ [] := by
  induction cs generalizing w with
  | nil => cases hw
  | cons c cs ih =>
    rw [pieces] at hw
    split at hw
    · split at hw
      · cases hp : pieces cs with
        | nil =>
          rw [hp] at hw
          exact List.mem_singleton.mp hw ▸ List.cons_ne_nil _ _
        | cons v vs =>
          rw [hp] at hw
          rcases List.mem_cons.mp hw with rfl | hw
          · exact List.cons_ne_nil _ _
          · exact ih (hp ▸ List.mem_cons_of_mem _ hw)
      · rcases List.mem_cons.mp hw with rfl | hw
        · exact List.cons_ne_nil _ _
        · exact ih hw
    · exact ih hw

/-- The first piece behind any text is the end of a piece there, and the others stay. -/
theorem pieces_append (pre : List Char) (h : pieces (c :: cs) = w :: ws) :
    ∃ before u, pieces (pre ++ c :: cs) = before ++ (u ++ w) :: ws ∧
      before.flatten.length + u.length = alphanumCount pre := by
  induction pre with
  | nil => exact ⟨[], [], h, rfl⟩
  | cons d pre ih =>
    obtain ⟨before, u, hp, hn⟩ := ih
    rw [List.cons_append, alphanumCount_cons]
    by_cases hd : d.isAlphanum = true
    · rw [if_pos hd]
      by_cases hj : JoinsNext d (pre ++ c :: cs)
      · rw [pieces_cons_of_joinsNext hd hj, hp]
        cases before with
        | nil => exact ⟨[], d :: u, rfl, by simp [← hn]⟩
        | cons v vs => exact ⟨(d :: v) :: vs, u, rfl, by simp [← hn]; omega⟩
      · rw [pieces_cons_of_not_joinsNext hd hj, hp]
        exact ⟨[d] :: before, u, rfl, by simp [← hn]; omega⟩
    · rw [pieces_cons_of_separator hd, if_neg hd]
      exact ⟨before, u, hp, hn⟩

/-- What separates cuts, and what stands behind it does not count for the words before it. -/
theorem pieces_append_separator (hx : ¬ x.isAlphanum = true) (pre : List Char) :
    pieces (pre ++ x :: cs) = pieces pre ++ pieces cs := by
  induction pre with
  | nil => exact pieces_cons_of_separator hx
  | cons c pre ih =>
    have hj : JoinsNext c (pre ++ x :: cs) ↔ JoinsNext c pre := by
      have hxl : x.isLower = false := Bool.eq_false_iff.mpr fun h => hx (isAlphanum_of_isLower h)
      match pre with
      | [] => simp [JoinsNext, hx]
      | [d] => simp [JoinsNext, Joined, hxl]
      | d :: e :: es => rfl
    rw [List.cons_append]
    by_cases hc : c.isAlphanum = true
    · by_cases hn : JoinsNext c pre
      · rw [pieces_cons_of_joinsNext hc (hj.mpr hn), pieces_cons_of_joinsNext hc hn, ih]
        cases pre with
        | nil => exact hn.elim
        | cons d ds =>
          obtain ⟨v, vs, hp⟩ := exists_pieces_eq_cons hn.1 ds
          rw [hp]
          rfl
      · rw [pieces_cons_of_not_joinsNext hc (mt hj.mp hn), pieces_cons_of_not_joinsNext hc hn, ih]
        rfl
    · rw [pieces_cons_of_separator hc, pieces_cons_of_separator hc, ih]

/-- No word reaches over the end of another. -/
theorem not_inOneWord_append {xs ys : List (List Char)} {i j : Nat} (hi : i < xs.flatten.length)
    (hj : xs.flatten.length ≤ j) : ¬ InOneWord (xs ++ ys) i j := by
  rintro ⟨before, word, after, h, hbi, -, -, hwj⟩
  rcases List.append_eq_append_iff.mp h with ⟨mid, rfl, hmid⟩ | ⟨mid, rfl, hmid⟩
  · rw [List.flatten_append, List.length_append] at hbi
    omega
  · cases mid with
    | nil =>
      rw [List.append_nil] at hi
      omega
    | cons v mid =>
      rw [List.cons_append] at hmid
      obtain ⟨rfl, -⟩ := List.cons.inj hmid
      simp only [List.flatten_append, List.flatten_cons, List.length_append] at hj
      omega

theorem inOneWord_pieces_iff {pre post : List Char} (ha : a.isAlphanum = true)
    (hb : b.isAlphanum = true) :
    InOneWord (pieces (pre ++ a :: b :: post)) (alphanumCount pre) (alphanumCount pre + 1) ↔
      Joined a b post := by
  obtain ⟨w, ws, hp⟩ := exists_pieces_eq_cons hb post
  by_cases hj : Joined a b post
  · have hab : pieces (a :: b :: post) = (a :: b :: w) :: ws := by
      rw [pieces_cons_of_joinsNext ha (show JoinsNext a (b :: post) from ⟨hb, hj⟩), hp]
      rfl
    obtain ⟨before, u, hw, hn⟩ := pieces_append pre hab
    refine iff_of_true ⟨before, u ++ a :: b :: w, ws, hw, ?_⟩ hj
    simp only [List.length_append, List.length_cons]
    omega
  · have hab : pieces (a :: b :: post) = [a] :: pieces (b :: post) :=
      pieces_cons_of_not_joinsNext ha fun h : JoinsNext a (b :: post) => hj h.2
    obtain ⟨before, u, hw, hn⟩ := pieces_append pre hab
    refine iff_of_false ?_ hj
    have hlen : (before ++ [u ++ [a]]).flatten.length = alphanumCount pre + 1 := by
      simp only [List.flatten_append, List.flatten_singleton, List.length_append,
        List.length_singleton]
      omega
    rw [hw, List.append_cons]
    exact not_inOneWord_append (by omega) (by omega)

theorem not_inOneWord_pieces {pre mid post : List Char} (ha : a.isAlphanum = true)
    (hmid : ∃ x ∈ mid, ¬ x.isAlphanum = true) :
    ¬ InOneWord (pieces (pre ++ a :: mid ++ post)) (alphanumCount pre)
      (alphanumCount (pre ++ a :: mid)) := by
  obtain ⟨x, hx, hsep⟩ := hmid
  obtain ⟨first, last, rfl⟩ := List.append_of_mem hx
  have htext : pre ++ a :: (first ++ x :: last) ++ post =
      (pre ++ a :: first) ++ x :: (last ++ post) := by simp
  rw [htext, pieces_append_separator hsep]
  apply not_inOneWord_append <;>
  · rw [length_flatten_pieces]
    simp only [alphanumCount, List.countP_append, List.countP_cons, ha, if_true]
    omega

/-! ## The words of a name -/

/-- The words of a text hold its letters and digits in their order. Two of these that stand next to
each other are in one word exactly if they are joined, and two with anything else between them never
are. -/
theorem splitWords_boundaries (s : String) :
    (∀ w ∈ splitWords s, w ≠ "") ∧
    String.join (splitWords s) = String.ofList (s.toList.filter Char.isAlphanum) ∧
    (∀ pre a b post, s.toList = pre ++ a :: b :: post → a.isAlphanum = true →
      b.isAlphanum = true →
      (InOneWord ((splitWords s).map String.toList) (alphanumCount pre) (alphanumCount pre + 1) ↔
        Joined a b post)) ∧
    (∀ pre a mid b post, s.toList = pre ++ a :: mid ++ b :: post → a.isAlphanum = true →
      b.isAlphanum = true → (∃ x ∈ mid, ¬ x.isAlphanum = true) →
      ¬ InOneWord ((splitWords s).map String.toList) (alphanumCount pre)
        (alphanumCount (pre ++ a :: mid))) := by
  have hmap : (splitWords s).map String.toList = pieces s.toList := by
    rw [splitWords, List.map_map, ← wordsOf_eq_pieces]
    simp [Function.comp_def]
  refine ⟨?_, ?_, ?_, ?_⟩
  · intro w hw h
    have := List.mem_map_of_mem (f := String.toList) hw
    rw [hmap, h] at this
    exact ne_nil_of_mem_pieces this rfl
  · rw [← String.toList_inj, String.toList_join, List.flatMap_def, hmap, flatten_pieces,
      String.toList_ofList]
  · intro pre a b post hs ha hb
    rw [hmap, hs]
    exact inOneWord_pieces_iff ha hb
  · intro pre a mid b post hs ha _ hmid
    rw [hmap, hs]
    exact not_inOneWord_pieces ha hmid

/-- The first two capitals of an acronym stay together, its last one does not stay with the capital
behind it, and a blank separates. -/
theorem splitWords_boundaries_acronym :
    InOneWord ((splitWords "APIKey 2go").map String.toList) 0 1 ∧
      ¬ InOneWord ((splitWords "APIKey 2go").map String.toList) 2 3 ∧
      ¬ InOneWord ((splitWords "APIKey 2go").map String.toList) 5 6 := by
  obtain ⟨-, -, adjacent, separated⟩ := splitWords_boundaries "APIKey 2go"
  refine ⟨?_, ?_, ?_⟩
  · exact (adjacent [] 'A' 'P' "IKey 2go".toList rfl rfl rfl).mpr (by decide)
  · exact mt (adjacent "AP".toList 'I' 'K' "ey 2go".toList rfl rfl rfl).mp (by decide)
  · exact separated "APIKe".toList 'y' [' '] '2' "go".toList rfl rfl rfl
      ⟨' ', List.mem_cons_self, by decide⟩

end RemoteBindings.Text
