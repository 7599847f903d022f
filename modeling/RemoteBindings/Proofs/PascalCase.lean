import Mathlib.Data.List.Chain
import RemoteBindings.Proofs.WordBoundaries

/-!
# Names in Pascal case, cased again

`cased` raises the letters that begin a word and lowers the others, and `pascalChars` does just that
(`pascalChars_eq_cased`). In a name in Pascal case each word is a run of digits or a capital with
small letters (`IsCapitalWord`). Cased again, digits and the small letters stay, and a capital stays
if a word begins with it: that fails only behind a capital that is a whole word, and only for one
that is a whole word too. So `pascalCase_pascalCase_eq_iff` tells the names that stay as they are.
-/

namespace RemoteBindings.Text

variable {c d : Char} {cs w : List Char} {ws : List (List Char)} {starts : Bool}

/-! ## Casing character by character -/

/-- The letters and digits of a text, raised where a word begins and lowered elsewhere; `starts`
tells whether one begins with the first character. -/
def cased (starts : Bool) : List Char → List Char
  | [] => []
  | c :: cs =>
    if c.isAlphanum then
      (if starts then c.toUpper else c.toLower) :: cased (!decide (JoinsNext c cs)) cs
    else cased true cs

theorem cased_cons_of_joinsNext (hc : c.isAlphanum = true) (h : JoinsNext c cs) :
    cased starts (c :: cs) = (if starts then c.toUpper else c.toLower) :: cased false cs := by
  rw [cased, if_pos hc, decide_eq_true h, Bool.not_true]

theorem cased_cons_of_not_joinsNext (hc : c.isAlphanum = true) (h : ¬ JoinsNext c cs) :
    cased starts (c :: cs) = (if starts then c.toUpper else c.toLower) :: cased true cs := by
  rw [cased, if_pos hc, decide_eq_false h, Bool.not_false]

/-- The words as `cased` writes them: the first one is lowered if it does not begin there. -/
def casedWords (starts : Bool) : List (List Char) → List Char
  | [] => []
  | w :: ws => (if starts then capitalWord w else w.map Char.toLower) ++ ws.flatMap capitalWord

theorem casedWords_true (ws : List (List Char)) : casedWords true ws = ws.flatMap capitalWord := by
  cases ws <;> rfl

theorem casedWords_extendFirst :
    casedWords starts (extendFirst c ws) =
      (if starts then c.toUpper else c.toLower) :: casedWords false ws := by
  cases ws <;> cases starts <;> rfl

theorem casedWords_singleton_cons :
    casedWords starts ([c] :: ws) =
      (if starts then c.toUpper else c.toLower) :: casedWords true ws := by
  cases ws <;> cases starts <;> rfl

theorem cased_eq_casedWords (h : starts = true ∨ ∃ c ∈ cs.head?, c.isAlphanum = true) :
    cased starts cs = casedWords starts (pieces cs) := by
  induction cs generalizing starts with
  | nil => rfl
  | cons c cs ih =>
    by_cases hc : c.isAlphanum = true
    · by_cases hj : JoinsNext c cs
      · have hnext : ∃ d ∈ cs.head?, d.isAlphanum = true := by
          cases cs with
          | nil => exact hj.elim
          | cons d ds => exact ⟨d, rfl, hj.1⟩
        rw [cased_cons_of_joinsNext hc hj, pieces_cons_of_joinsNext hc hj, casedWords_extendFirst,
          ih (.inr hnext)]
      · rw [cased_cons_of_not_joinsNext hc hj, pieces_cons_of_not_joinsNext hc hj,
          casedWords_singleton_cons, ih (.inl rfl)]
    · obtain rfl : starts = true := h.resolve_right fun ⟨d, hd, hda⟩ => hc (by cases hd; exact hda)
      rw [cased, if_neg hc, pieces_cons_of_separator hc, ih (.inl rfl)]

theorem pascalChars_eq_cased (cs : List Char) : pascalChars cs = cased true cs := by
  rw [pascalChars, wordsOf_eq_pieces, cased_eq_casedWords (.inl rfl), casedWords_true]

/-! ## Capital words -/

/-- A word as a name in Pascal case writes it. -/
def IsCapitalWord (w : List Char) : Prop :=
  (w ≠ [] ∧ ∀ d ∈ w, d.isDigit = true) ∨
    ∃ c cs, w = c :: cs ∧ c.isUpper = true ∧ ∀ d ∈ cs, d.isLower = true

/-- A word that is a single letter. -/
def IsSingleLetter (w : List Char) : Prop := ∃ c, w = [c] ∧ c.isAlpha = true

theorem toUpper_of_isDigit (h : c.isDigit = true) : c.toUpper = c :=
  forall_isAlphanum (p := fun c => c.isDigit = true → c.toUpper = c) (by decide)
    (isAlphanum_of_isDigit h) h

theorem toLower_of_isDigit (h : c.isDigit = true) : c.toLower = c :=
  forall_isAlphanum (p := fun c => c.isDigit = true → c.toLower = c) (by decide)
    (isAlphanum_of_isDigit h) h

theorem toUpper_of_isUpper (h : c.isUpper = true) : c.toUpper = c :=
  forall_isAlphanum (p := fun c => c.isUpper = true → c.toUpper = c) (by decide)
    (isAlphanum_of_isUpper h) h

theorem toLower_ne_of_isUpper (h : c.isUpper = true) : c.toLower ≠ c :=
  forall_isAlphanum (p := fun c => c.isUpper = true → c.toLower ≠ c) (by decide)
    (isAlphanum_of_isUpper h) h

theorem toLower_of_isLower (h : c.isLower = true) : c.toLower = c :=
  forall_isAlphanum (p := fun c => c.isLower = true → c.toLower = c) (by decide)
    (isAlphanum_of_isLower h) h

theorem isAlphanum_of_isAlpha (h : c.isAlpha = true) : c.isAlphanum = true :=
  Bool.or_eq_true_iff.mpr (.inl h)

theorem isUpper_toUpper (h : c.isAlpha = true) : c.toUpper.isUpper = true :=
  forall_isAlphanum (p := fun c => c.isAlpha = true → c.toUpper.isUpper = true) (by decide)
    (isAlphanum_of_isAlpha h) h

theorem isLower_toLower (h : c.isAlpha = true) : c.toLower.isLower = true :=
  forall_isAlphanum (p := fun c => c.isAlpha = true → c.toLower.isLower = true) (by decide)
    (isAlphanum_of_isAlpha h) h

theorem isAlpha_of_isUpper (h : c.isUpper = true) : c.isAlpha = true :=
  Bool.or_eq_true_iff.mpr (.inl h)

theorem isAlpha_of_isLower (h : c.isLower = true) : c.isAlpha = true :=
  Bool.or_eq_true_iff.mpr (.inr h)

theorem isDigit_eq_false_of_isAlpha (h : c.isAlpha = true) : c.isDigit = false := by
  rcases Bool.or_eq_true_iff.mp h with h | h
  · exact not_isDigit_of_isUpper h
  · exact not_isDigit_of_isLower h

theorem joined_digits_or_letters {after : List Char} (h : Joined c d after) :
    (c.isDigit = true ∧ d.isDigit = true) ∨ (c.isAlpha = true ∧ d.isAlpha = true) := by
  rcases h with ⟨hc, hd⟩ | h | ⟨hc, hd⟩ | ⟨hc, hd, -⟩
  · exact .inr ⟨isAlpha_of_isLower hc, isAlpha_of_isLower hd⟩
  · exact .inl h
  · exact .inr ⟨isAlpha_of_isUpper hc, isAlpha_of_isLower hd⟩
  · exact .inr ⟨isAlpha_of_isUpper hc, isAlpha_of_isUpper hd⟩

/-- A word has digits only or letters only. -/
theorem digits_or_letters_of_mem_pieces (hw : w ∈ pieces cs) :
    (∀ d ∈ w, d.isDigit = true) ∨ (∀ d ∈ w, d.isAlpha = true) := by
  induction cs generalizing w with
  | nil => cases hw
  | cons c cs ih =>
    by_cases hc : c.isAlphanum = true
    · by_cases hj : JoinsNext c cs
      · rw [pieces_cons_of_joinsNext hc hj] at hw
        cases cs with
        | nil => exact hj.elim
        | cons d ds =>
          obtain ⟨v, vs, hp⟩ := exists_pieces_eq_cons hj.1 ds
          rw [hp] at hw ih
          rcases List.mem_cons.mp hw with rfl | hw
          · -- the kind of the word shows at its second character
            rcases joined_digits_or_letters hj.2 with ⟨hc, hd⟩ | ⟨hc, hd⟩
            · refine .inl (List.forall_mem_cons.mpr ⟨hc, ?_⟩)
              refine (ih List.mem_cons_self).resolve_right fun h => ?_
              have := isDigit_eq_false_of_isAlpha (h d List.mem_cons_self)
              rw [hd] at this
              cases this
            · refine .inr (List.forall_mem_cons.mpr ⟨hc, ?_⟩)
              refine (ih List.mem_cons_self).resolve_left fun h => ?_
              have := isDigit_eq_false_of_isAlpha hd
              rw [h d List.mem_cons_self] at this
              cases this
          · exact ih (List.mem_cons_of_mem _ hw)
      · rw [pieces_cons_of_not_joinsNext hc hj] at hw
        rcases List.mem_cons.mp hw with rfl | hw
        · simp only [List.mem_singleton, forall_eq]
          exact (Bool.or_eq_true_iff.mp hc).symm
        · exact ih hw
    · exact ih (pieces_cons_of_separator hc ▸ hw)

theorem isCapitalWord_capitalWord (hw : w ∈ pieces cs) : IsCapitalWord (capitalWord w) := by
  have hne := ne_nil_of_mem_pieces hw
  cases w with
  | nil => exact (hne rfl).elim
  | cons c w =>
    rcases digits_or_letters_of_mem_pieces hw with h | h
    · obtain ⟨hc, hcs⟩ := List.forall_mem_cons.mp h
      have hsame : capitalWord (c :: w) = c :: w := by
        rw [capitalWord, toUpper_of_isDigit hc, List.map_congr_left fun d hd =>
          toLower_of_isDigit (hcs d hd), List.map_id']
      rw [hsame]
      exact .inl ⟨List.cons_ne_nil _ _, h⟩
    · obtain ⟨hc, hcs⟩ := List.forall_mem_cons.mp h
      exact .inr ⟨_, _, rfl, isUpper_toUpper hc,
        List.forall_mem_map.mpr fun d hd => isLower_toLower (hcs d hd)⟩

theorem isAlpha_toUpper (h : c.isAlphanum = true) : c.toUpper.isAlpha = c.isAlpha :=
  forall_isAlphanum (p := fun c => c.toUpper.isAlpha = c.isAlpha) (by decide) h

theorem isSingleLetter_capitalWord (h : ∀ d ∈ w, d.isAlphanum = true) :
    IsSingleLetter (capitalWord w) ↔ IsSingleLetter w := by
  cases w with
  | nil => rfl
  | cons c w =>
    cases w <;> simp [IsSingleLetter, capitalWord, isAlpha_toUpper (h c List.mem_cons_self)]

/-! ## Capital words, cased again -/

variable {ps : List (List Char)} {rest : List Char}

/-- A capital word begins with a digit or a capital. -/
theorem not_isLower_head?_flatten (h : ∀ p ∈ ps, IsCapitalWord p) :
    ∀ c ∈ ps.flatten.head?, c.isLower = false := by
  cases ps with
  | nil => exact fun _ hc => nomatch hc
  | cons p ps =>
    rcases h p List.mem_cons_self with ⟨hne, hp⟩ | ⟨c, cs, rfl, hc, -⟩
    · cases p with
      | nil => exact (hne rfl).elim
      | cons d ds =>
        rintro _ ⟨⟩
        rw [Bool.eq_false_iff]
        intro hl
        have := hp d List.mem_cons_self
        rw [not_isDigit_of_isLower hl] at this
        cases this
    · rintro _ ⟨⟩
      exact not_isLower_of_isUpper hc

/-- A digit is neither raised nor lowered, and what is joined with it is a digit. -/
theorem cased_of_isDigit (hd : d.isDigit = true) : cased starts (d :: cs) = d :: cased true cs := by
  have hsame {e : Char} (he : e.isDigit = true) (b : Bool) :
      (if b then e.toUpper else e.toLower) = e := by
    rw [toUpper_of_isDigit he, toLower_of_isDigit he, ite_self]
  have hda := isAlphanum_of_isDigit hd
  by_cases hj : JoinsNext d cs
  · rw [cased_cons_of_joinsNext hda hj, hsame hd]
    obtain ⟨e, he, hed⟩ := (joinsNext_iff_of_isDigit hd).mp hj
    obtain ⟨es, rfl⟩ := List.head?_eq_some_iff.mp he
    rw [cased, cased, if_pos (isAlphanum_of_isDigit hed), if_pos (isAlphanum_of_isDigit hed),
      hsame hed, hsame hed]
  · rw [cased_cons_of_not_joinsNext hda hj, hsame hd]

theorem cased_digits {ds : List Char} (h : ∀ d ∈ ds, d.isDigit = true) :
    cased true (ds ++ rest) = ds ++ cased true rest := by
  induction ds with
  | nil => rfl
  | cons d ds ih =>
    obtain ⟨hd, hds⟩ := List.forall_mem_cons.mp h
    rw [List.cons_append, cased_of_isDigit hd, ih hds, List.cons_append]

/-- Small letters stay behind the letter that they are joined with. -/
theorem cased_small (h : ∀ d ∈ c :: cs, d.isLower = true)
    (hr : ∀ d ∈ rest.head?, d.isLower = false) :
    cased false (c :: cs ++ rest) = c :: cs ++ cased true rest := by
  induction cs generalizing c with
  | nil =>
    have hc := h c List.mem_cons_self
    have hj : ¬ JoinsNext c rest := by
      rw [joinsNext_iff_of_isLower hc]
      rintro ⟨d, hd, hl⟩
      rw [hr d hd] at hl
      cases hl
    simp only [List.cons_append, List.nil_append]
    rw [cased_cons_of_not_joinsNext (isAlphanum_of_isLower hc) hj, if_neg Bool.false_ne_true,
      toLower_of_isLower hc]
  | cons d ds ih =>
    obtain ⟨hc, hds⟩ := List.forall_mem_cons.mp h
    have hj : JoinsNext c (d :: ds ++ rest) :=
      (joinsNext_iff_of_isLower hc).mpr ⟨d, rfl, hds d List.mem_cons_self⟩
    rw [List.cons_append, cased_cons_of_joinsNext (isAlphanum_of_isLower hc) hj, ih hds,
      if_neg Bool.false_ne_true, toLower_of_isLower hc]
    rfl

/-- A capital and small letters behind it stay where a word begins with them. -/
theorem cased_capital (hc : c.isUpper = true) (h : ∀ e ∈ d :: cs, e.isLower = true)
    (hr : ∀ e ∈ rest.head?, e.isLower = false) :
    cased true (c :: d :: cs ++ rest) = c :: d :: cs ++ cased true rest := by
  have hd := h d List.mem_cons_self
  have hj : JoinsNext c (d :: cs ++ rest) :=
    ⟨isAlphanum_of_isLower hd, (joined_iff_of_isUpper hc).mpr (.inl hd)⟩
  rw [List.cons_append, cased_cons_of_joinsNext (isAlphanum_of_isUpper hc) hj, cased_small h hr,
    if_pos rfl, toUpper_of_isUpper hc]
  rfl

/-- Behind a capital, a capital goes on with the word exactly if it is a whole word itself. -/
theorem joinsNext_flatten_iff (hc : c.isUpper = true) (h : ∀ p ∈ ps, IsCapitalWord p) :
    JoinsNext c ps.flatten ↔ ∃ p ∈ ps.head?, IsSingleLetter p := by
  cases ps with
  | nil => simp [JoinsNext]
  | cons p ps =>
    obtain ⟨hp, hps⟩ := List.forall_mem_cons.mp h
    rcases hp with ⟨hne, hp⟩ | ⟨d, ds, rfl, hd, hds⟩
    · cases p with
      | nil => exact (hne rfl).elim
      | cons d ds =>
        have hd := hp d List.mem_cons_self
        have hdigit {d : Char} (hd : d.isDigit = true) : ¬ d.isAlpha = true := fun ha => by
          rw [isDigit_eq_false_of_isAlpha ha] at hd
          cases hd
        refine iff_of_false (fun hj => ?_) ?_
        · rcases joined_digits_or_letters hj.2 with h | h
          · exact hdigit h.1 (isAlpha_of_isUpper hc)
          · exact hdigit hd h.2
        · rintro ⟨_, ⟨⟩, e, he, hea⟩
          cases he
          exact hdigit hd hea
    · cases ds with
      | nil =>
        refine iff_of_true ⟨isAlphanum_of_isUpper hd, ?_⟩ ⟨_, rfl, d, rfl, isAlpha_of_isUpper hd⟩
        exact (joined_iff_of_isUpper hc).mpr (.inr ⟨hd, not_isLower_head?_flatten hps⟩)
      | cons e es =>
        refine iff_of_false (fun hj => ?_) (by simp [IsSingleLetter])
        rcases (joined_iff_of_isUpper hc).mp hj.2 with hl | ⟨-, hl⟩
        · rw [not_isLower_of_isUpper hd] at hl
          cases hl
        · have := hl e rfl
          rw [hds e List.mem_cons_self] at this
          cases this

theorem isUpper_of_joinsNext_flatten (hc : c.isUpper = true) (h : ∀ p ∈ ps, IsCapitalWord p)
    (hj : JoinsNext c ps.flatten) : ∃ d ds, ps.flatten = d :: ds ∧ d.isUpper = true := by
  obtain ⟨p, hp, e, rfl, he⟩ := (joinsNext_flatten_iff hc h).mp hj
  obtain ⟨ps, rfl⟩ := List.head?_eq_some_iff.mp hp
  rcases h _ List.mem_cons_self with ⟨-, hdigits⟩ | ⟨d, ds, heq, hd, -⟩
  · have := hdigits e List.mem_cons_self
    rw [isDigit_eq_false_of_isAlpha he] at this
    cases this
  · cases heq
    exact ⟨e, ps.flatten, rfl, hd⟩

/-- Capital words stay as they are, cased again, exactly if no two single letters are next to each
other. -/
theorem cased_flatten_eq_iff (h : ∀ p ∈ ps, IsCapitalWord p) :
    cased true ps.flatten = ps.flatten ↔
      ps.IsChain fun p q => ¬ (IsSingleLetter p ∧ IsSingleLetter q) := by
  induction ps with
  | nil => simp [cased]
  | cons p ps ih =>
    obtain ⟨hp, hps⟩ := List.forall_mem_cons.mp h
    have hrest := not_isLower_head?_flatten hps
    rw [List.flatten_cons, List.isChain_cons, ← ih hps]
    rcases hp with ⟨-, hp⟩ | ⟨c, cs, rfl, hc, hcs⟩
    · have hsingle : ¬ IsSingleLetter p := by
        rintro ⟨e, rfl, he⟩
        have := hp e List.mem_cons_self
        rw [isDigit_eq_false_of_isAlpha he] at this
        cases this
      simp [cased_digits hp, hsingle]
    · cases cs with
      | cons d ds =>
        rw [cased_capital hc hcs hrest]
        simp [IsSingleLetter]
      | nil =>
        have hca := isAlphanum_of_isUpper hc
        have hsingle : IsSingleLetter [c] := ⟨c, rfl, isAlpha_of_isUpper hc⟩
        by_cases hj : JoinsNext c ps.flatten
        · -- the capital behind it is lowered
          refine iff_of_false (fun heq => ?_) (fun hch => ?_)
          · obtain ⟨d, ds, hd, hdu⟩ := isUpper_of_joinsNext_flatten hc hps hj
            rw [List.singleton_append, cased_cons_of_joinsNext hca hj, hd, cased,
              if_pos (isAlphanum_of_isUpper hdu)] at heq
            exact toLower_ne_of_isUpper hdu (List.cons.inj (List.cons.inj heq).2).1
          · obtain ⟨q, hq, hqs⟩ := (joinsNext_flatten_iff hc hps).mp hj
            exact hch.1 q hq ⟨hsingle, hqs⟩
        · have hhead : ∀ q ∈ ps.head?, ¬ (IsSingleLetter [c] ∧ IsSingleLetter q) := fun q hq hs =>
            hj ((joinsNext_flatten_iff hc hps).mpr ⟨q, hq, hs.2⟩)
          rw [List.singleton_append, cased_cons_of_not_joinsNext hca hj, if_pos rfl,
            toUpper_of_isUpper hc, and_iff_right hhead]
          exact List.cons_eq_cons.trans (and_iff_right rfl)

/-! ## Names -/

/-- A name in Pascal case stays as it is, cased again, exactly if no two words of the text that it
comes from are single letters next to each other. -/
theorem pascalCase_pascalCase_eq_iff (s : String) :
    pascalCase (pascalCase s) = pascalCase s ↔
      (splitWords s).IsChain fun v w => ¬ (IsSingleLetter v.toList ∧ IsSingleLetter w.toList) := by
  have hcapital : ∀ p ∈ (pieces s.toList).map capitalWord, IsCapitalWord p :=
    List.forall_mem_map.mpr fun w hw => isCapitalWord_capitalWord hw
  have hname : (pascalCase s).toList = ((pieces s.toList).map capitalWord).flatten := by
    rw [pascalCase, String.toList_ofList, pascalChars, wordsOf_eq_pieces, List.flatMap_def]
  rw [← String.toList_inj, pascalCase, String.toList_ofList, pascalChars_eq_cased, hname,
    cased_flatten_eq_iff hcapital, List.isChain_map, splitWords, List.isChain_map,
    ← wordsOf_eq_pieces]
  refine List.IsChain.iff_of_mem_imp fun v w hv hw => ?_
  rw [isSingleLetter_capitalWord (isAlphanum_of_mem_wordsOf hv),
    isSingleLetter_capitalWord (isAlphanum_of_mem_wordsOf hw), String.toList_ofList,
    String.toList_ofList]

end RemoteBindings.Text
