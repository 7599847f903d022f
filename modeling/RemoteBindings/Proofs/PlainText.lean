import RemoteBindings.Proofs.Styles

/-!
# Text with few tags

Every tag of a text stands behind one of its brackets (`tag_of_mem_piecesOf`). Where no bracket opens
a tag (`OpensNoTag`), no stretch of the text is styled and it can be shown
(`canShow_of_opensNoTag`); a text without brackets is one of these. A text can be shown as well if
all of its brackets are those around some bold words (`canShow_bold`).
-/

namespace RemoteBindings.Console

variable {cs before inside after rest : List Char} {pieces : List Piece} {t : MarkedText}
  {opened : List OpenTag}

/-! ## Tags of a text -/

/-- A piece that is no tag. -/
def Piece.isText : Piece → Bool
  | text _ => true
  | tag _ => false

theorem isText_of_mem_textPiece {p : Piece} (h : p ∈ textPiece before) : p.isText = true := by
  unfold textPiece at h
  split at h
  · cases h
  · rw [List.mem_singleton.mp h]
    rfl

theorem suffix_of_takeTag? (h : takeTag? rest = some (inside, after)) : after <:+ rest := by
  unfold takeTag? at h
  split at h
  · cases h
  · split at h
    · split at h
      · rename_i c tail _ _ after' hd
        cases h
        exact (List.suffix_cons _ _).trans (hd ▸ (List.dropWhile_suffix _).trans
          (List.suffix_cons _ _))
      · cases h
    · cases h

/-- A bracket of a text opens a tag. -/
def OpensTag (cs : List Char) (tag : Tag) : Prop :=
  ∃ rest inside after, '[' :: rest <:+ cs ∧ takeTag? rest = some (inside, after) ∧
    tag = Tag.ofInside inside

theorem OpensTag.of_suffix {tag : Tag} (h : OpensTag rest tag) (hs : rest <:+ cs) :
    OpensTag cs tag := by
  obtain ⟨r, inside, after, hr, ht, he⟩ := h
  exact ⟨r, inside, after, hr.trans hs, ht, he⟩

theorem eq_of_tag_mem_tagPieces {slashes : Nat} {tag : Tag}
    (h : Piece.tag tag ∈ tagPieces slashes inside) : tag = Tag.ofInside inside := by
  rcases List.mem_append.mp h with h | h
  · cases isText_of_mem_textPiece h
  · have h := List.mem_singleton.mp h
    split at h
    · exact Piece.tag.inj h
    · cases h

/-- Every tag stands behind a bracket that opens it. -/
theorem tag_of_mem_piecesOf {tag : Tag} (fuel : Nat)
    (h : Piece.tag tag ∈ piecesOf fuel before cs) : OpensTag cs tag := by
  induction fuel generalizing before cs with
  | zero => cases isText_of_mem_textPiece h
  | succ fuel ih =>
    unfold piecesOf at h
    simp only at h
    have hs : cs.drop (cs.takeWhile (· == '\\')).length <:+ cs := List.drop_suffix _ _
    split at h
    · cases isText_of_mem_textPiece h
    · rename_i rest hd
      rw [hd] at hs
      have hrest : rest <:+ cs := (List.suffix_cons _ _).trans hs
      split at h
      · rename_i inside after ht
        rcases List.mem_append.mp h with h | h
        · rcases List.mem_append.mp h with h | h
          · cases isText_of_mem_textPiece h
          · exact ⟨rest, inside, after, hs, ht, eq_of_tag_mem_tagPieces h⟩
        · exact (ih h).of_suffix ((suffix_of_takeTag? ht).trans hrest)
      · exact (ih h).of_suffix hrest
    · rename_i c rest _ hd
      rw [hd] at hs
      exact (ih h).of_suffix ((List.suffix_cons _ _).trans hs)

/-- The number of the tags among some pieces. -/
def tagCount (pieces : List Piece) : Nat := pieces.countP fun p => !p.isText

theorem tagCount_eq_zero_iff : tagCount pieces = 0 ↔ ∀ p ∈ pieces, p.isText = true := by
  simp [tagCount]

theorem tagCount_append (pieces more : List Piece) :
    tagCount (pieces ++ more) = tagCount pieces + tagCount more := List.countP_append ..

theorem tagCount_textPiece (before : List Char) : tagCount (textPiece before) = 0 :=
  tagCount_eq_zero_iff.mpr fun _ => isText_of_mem_textPiece

theorem tagCount_tagPieces_le (slashes : Nat) (inside : List Char) :
    tagCount (tagPieces slashes inside) ≤ 1 := by
  rw [tagPieces, tagCount_append, tagCount_textPiece, Nat.zero_add]
  exact List.countP_le_length

/-- There are no more tags than brackets. -/
theorem tagCount_piecesOf_le (fuel : Nat) (before cs : List Char) :
    tagCount (piecesOf fuel before cs) ≤ cs.count '[' := by
  induction fuel generalizing before cs with
  | zero => exact Nat.le_trans (Nat.le_of_eq (tagCount_textPiece before)) (Nat.zero_le _)
  | succ fuel ih =>
    have hs := (List.drop_sublist (cs.takeWhile (· == '\\')).length cs).count_le '['
    unfold piecesOf
    simp only
    split
    · exact Nat.le_trans (Nat.le_of_eq (tagCount_textPiece _)) (Nat.zero_le _)
    · rename_i rest hd
      rw [hd, List.count_cons_self] at hs
      split
      · rename_i inside after ht
        have hafter := (suffix_of_takeTag? ht).sublist.count_le '['
        have htag := tagCount_tagPieces_le (cs.takeWhile (· == '\\')).length inside
        have hrest := ih [] after
        rw [tagCount_append, tagCount_append, tagCount_textPiece]
        omega
      · exact Nat.le_trans (ih _ _) (Nat.le_of_succ_le hs)
    · rename_i c rest _ hd
      rw [hd] at hs
      exact Nat.le_trans (ih _ _) (Nat.le_trans ((List.sublist_cons_self c rest).count_le '[') hs)

theorem piecesOf_bracket (h : takeTag? rest = some (inside, after)) (fuel : Nat) :
    piecesOf (fuel + 1) before ('[' :: rest) =
      textPiece before ++ tagPieces 0 inside ++ piecesOf fuel [] after := by
  simp [piecesOf, h]

/-! ## Texts without tags -/

/-- No bracket of a text opens a tag. -/
def OpensNoTag (cs : List Char) : Prop := ∀ tag, ¬ OpensTag cs tag

theorem opensNoTag_of_not_mem (h : '[' ∉ cs) : OpensNoTag cs := by
  rintro tag ⟨rest, inside, after, hs, -⟩
  exact h (hs.subset List.mem_cons_self)

/-- A bracket opens no tag before a character that starts none. -/
theorem opensNoTag_bracket (h : '[' ∉ cs) (hc : ∀ c ∈ cs.head?, startsTag c = false) :
    OpensNoTag ('[' :: cs) := by
  rintro tag ⟨rest, inside, after, hs, ht, -⟩
  rcases List.suffix_cons_iff.mp hs with he | hs
  · obtain rfl := (List.cons.inj he).2
    cases rest with
    | nil => cases ht
    | cons c rest => simp [takeTag?, hc c rfl] at ht
  · exact h (hs.subset List.mem_cons_self)

theorem addPieces_of_isText (t : MarkedText) (opened : List OpenTag)
    (h : ∀ p ∈ pieces, p.isText = true) : ∃ u, addPieces t opened pieces = .ok u ∧
      u.spans = t.spans ++ opened.map fun tag => tag.span u.length := by
  induction pieces generalizing t with
  | nil => exact ⟨_, rfl, rfl⟩
  | cons p pieces ih =>
    obtain ⟨hp, hpieces⟩ := List.forall_mem_cons.mp h
    cases p with
    | text cs => exact ih _ hpieces
    | tag _ => cases hp

/-- A text without tags has no styles, so it can be shown. -/
theorem canShow_of_opensNoTag {s : String} (h : OpensNoTag s.toList) : CanShow s := by
  have htext : ∀ p ∈ piecesOf (s.length + 1) [] s.toList, p.isText = true := fun p hp => by
    cases p with
    | text cs => rfl
    | tag tag => exact absurd (tag_of_mem_piecesOf _ hp) (h tag)
  obtain ⟨u, hu, hs⟩ := addPieces_of_isText {} [] htext
  refine ⟨u, hu, fun s hm => ?_⟩
  rw [hs] at hm
  cases hm

theorem canShow_of_not_mem {s : String} (h : '[' ∉ s.toList) : CanShow s :=
  canShow_of_opensNoTag (opensNoTag_of_not_mem h)

/-! ## Bold words -/

theorem suffix_bracket_eq {xs zs : List Char} (hx : '[' ∉ xs) (hz : '[' ∉ zs)
    (h : '[' :: rest <:+ xs ++ '[' :: zs) : rest = zs := by
  induction xs with
  | nil =>
    rcases List.suffix_cons_iff.mp h with he | hs
    · exact (List.cons.inj he).2
    · exact absurd (hs.subset List.mem_cons_self) hz
  | cons x xs ih =>
    obtain ⟨hne, hxs⟩ := not_or.mp (mt List.mem_cons.mpr hx)
    rcases List.suffix_cons_iff.mp h with he | hs
    · exact absurd (List.cons.inj he).1 hne
    · exact ih hxs hs

def boldName : List Char := ['b', 'o', 'l', 'd']

/-- The tag that opens bold words, and the one behind them. -/
def boldTag : Tag := ⟨boldName, none⟩
def endOfBold : Tag := ⟨'/' :: boldName, none⟩

def openBold (start : Nat) : OpenTag := ⟨start, "bold", none⟩

theorem shows_of_bold {u : MarkedText} (h : ∀ s ∈ u.spans, s.style = "bold") : u.Shows := by
  intro s hs
  rw [h s hs]
  decide +kernel

theorem styleName_bold : styleName boldName = .ok "bold" :=
  toOption_eq_some_iff.mp (by decide +kernel)

theorem takeClosed_bold (start : Nat) :
    takeClosed boldName [openBold start] = .ok (openBold start, []) := by
  have htrim : Text.trimBlankChars boldName = boldName := by decide
  simp only [takeClosed, htrim, styleName_bold, takeNamed?, openBold, Except.map]
  rfl

theorem close_openBold (start stop : Nat) :
    (openBold start).close stop = .ok ((openBold start).span stop) := by
  have hn : (openBold start).isAction = false :=
    show "bold".startsWith "@" = false by decide +kernel
  rw [OpenTag.close, hn]
  rfl

theorem addPieces_endOfBold (start : Nat) :
    addPieces t [openBold start] (.tag endOfBold :: pieces) =
      addPieces { t with spans := t.spans ++ [(openBold start).span t.length] } [] pieces := by
  rw [endOfBold, addPieces, takeClosed_bold]
  simp only [bind, Except.bind, close_openBold]

theorem addPieces_bold : addPieces t [] (.tag boldTag :: pieces) =
    addPieces t [openBold t.length] pieces := by
  have hname : boldTag.name = boldName := rfl
  rw [addPieces, hname, styleName_bold]
  · rfl
  · rintro name parameters ⟨⟩

/-- Within bold words, texts and the tag behind the words can be added. -/
theorem exists_addPieces_bold (start : Nat) (ht : ∀ s ∈ t.spans, s.style = "bold")
    (hp : ∀ tag, Piece.tag tag ∈ pieces → tag = endOfBold) (hc : tagCount pieces ≤ 1) :
    ∃ u, addPieces t [openBold start] pieces = .ok u ∧ ∀ s ∈ u.spans, s.style = "bold" := by
  have hspan (n : Nat) : ((openBold start).span n).style = "bold" := String.append_empty
  induction pieces generalizing t with
  | nil =>
    refine ⟨_, rfl, fun s hs => ?_⟩
    rcases List.mem_append.mp hs with hs | hs
    · exact ht s hs
    · rw [List.mem_singleton.mp hs, hspan]
  | cons p pieces ih =>
    have hp' : ∀ tag, Piece.tag tag ∈ pieces → tag = endOfBold := fun tag hm =>
      hp tag (List.mem_cons_of_mem _ hm)
    cases p with
    | text cs => exact ih ht hp' (by simpa [tagCount, Piece.isText] using hc)
    | tag tag =>
      obtain rfl := hp tag List.mem_cons_self
      have hnone : tagCount pieces = 0 := by simpa [tagCount, Piece.isText] using hc
      rw [addPieces_endOfBold]
      obtain ⟨u, hu, hs⟩ := addPieces_of_isText _ [] (tagCount_eq_zero_iff.mp hnone)
      refine ⟨u, hu, fun s hm => ?_⟩
      rw [hs, List.map_nil, List.append_nil] at hm
      rcases List.mem_append.mp hm with hm | hm
      · exact ht s hm
      · rw [List.mem_singleton.mp hm, hspan]

/-- Some words in bold behind a line feed, and a text that follows them. -/
def boldLine (words more : List Char) : List Char :=
  '\n' :: '[' :: (boldName ++ ']' :: (words ++ '[' :: '/' :: (boldName ++ ']' :: more)))

theorem piecesOf_boldLine (fuel : Nat) (words more : List Char) :
    piecesOf (fuel + 2) [] (boldLine words more) = .text ['\n'] :: .tag boldTag ::
      piecesOf fuel [] (words ++ '[' :: '/' :: (boldName ++ ']' :: more)) := by
  have hfeed (cs : List Char) :
      piecesOf (fuel + 2) [] ('\n' :: '[' :: cs) = piecesOf (fuel + 1) ['\n'] ('[' :: cs) := rfl
  have htag (cs : List Char) : takeTag? (boldName ++ ']' :: cs) = some (boldName, cs) := rfl
  rw [boldLine, hfeed, piecesOf_bracket (htag _)]
  rfl

/-- Behind the tag that opens the bold words there is only the one that ends them. -/
theorem tag_eq_endOfBold {words more : List Char} {tag : Tag} (hw : '[' ∉ words) (hm : '[' ∉ more)
    (h : OpensTag (words ++ '[' :: '/' :: (boldName ++ ']' :: more)) tag) : tag = endOfBold := by
  obtain ⟨rest, inside, after, hs, ht, rfl⟩ := h
  have hrest : rest = '/' :: (boldName ++ ']' :: more) :=
    suffix_bracket_eq hw (by simp [boldName, hm]) hs
  have htag : takeTag? ('/' :: (boldName ++ ']' :: more)) = some ('/' :: boldName, more) := rfl
  rw [hrest, htag] at ht
  cases ht
  rfl

/-- A line of bold words and a text can be shown if neither has a bracket. -/
theorem canShow_boldLine {s : String} {words more : List Char} (hs : s.toList = boldLine words more)
    (hw : '[' ∉ words) (hm : '[' ∉ more) : CanShow s := by
  have hfuel : ∃ fuel, s.length + 1 = fuel + 2 := by
    refine ⟨s.length - 1, ?_⟩
    rw [← String.length_toList, hs, boldLine]
    simp
  obtain ⟨fuel, hfuel⟩ := hfuel
  have hcount : tagCount (piecesOf fuel [] (words ++ '[' :: '/' :: (boldName ++ ']' :: more))) ≤ 1 := by
    refine Nat.le_trans (tagCount_piecesOf_le fuel _ _) ?_
    simp [boldName, List.count_eq_zero.mpr hw, List.count_eq_zero.mpr hm]
  obtain ⟨u, hu, hspans⟩ := exists_addPieces_bold (t := { chars := shownChars ['\n'] })
    (shownChars ['\n']).length (fun _ h => (List.not_mem_nil h).elim)
    (fun tag h => tag_eq_endOfBold hw hm (tag_of_mem_piecesOf fuel h)) hcount
  refine ⟨u, ?_, shows_of_bold hspans⟩
  rw [markedText, hs, hfuel, piecesOf_boldLine, addPieces, addPieces_bold]
  exact hu

end RemoteBindings.Console
