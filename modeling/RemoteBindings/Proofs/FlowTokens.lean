import RemoteBindings.Proofs.FlowLexer

/-!
# Tokens of JSON text

The lexer reads the text of a JSON tree as the tokens `Tree.tokens`, exactly if there is no tab in
the white space and no document mark in a string (`scans_tree`). A name is marked as a key only
where its colon stands in the same line and at most 1024 characters behind its start
(`Name.isConfirmed`): the lexer remembers the place of the name up to there (`Remembers`).
-/

namespace RemoteBindings

/-! ## The tokens of a tree -/

namespace Json

open Yaml (Token isBreak)

/-- Whether a name is found to be a key: its colon stands in the same line and not too far away. -/
def Name.isConfirmed (n : Name) : Bool :=
  (n.letters.quoted ++ n.gap.chars).all (!isBreak ·) &&
    decide ((n.letters.quoted ++ n.gap.chars).length ≤ 1024)

/-- The tokens of a name and its colon. -/
def Name.tokens (n : Name) : List Token :=
  (if n.isConfirmed then [.key] else []) ++ [.scalar n.letters.folded false, .value]

mutual

def Tree.tokens : Tree → List Token
  | .string ls => [.scalar ls.folded false]
  | .bare b => [.scalar (String.ofList b.chars) true]
  | .emptyList _ => [.flowSequenceStart, .flowSequenceEnd]
  | .list items => .flowSequenceStart :: items.tokens ++ [.flowSequenceEnd]
  | .emptyObject _ => [.flowMappingStart, .flowMappingEnd]
  | .object members => .flowMappingStart :: members.tokens ++ [.flowMappingEnd]

def Items.tokens : Items → List Token
  | .last _ t _ => t.tokens
  | .more _ t _ rest => t.tokens ++ .flowComma :: rest.tokens

def Members.tokens : Members → List Token
  | .last name t _ => name.tokens ++ t.tokens
  | .more name t _ rest => name.tokens ++ t.tokens ++ .flowComma :: rest.tokens

end

def Tree.isCollection : Tree → Bool
  | .string _ | .bare _ => false
  | .emptyList _ | .list _ | .emptyObject _ | .object _ => true

/-- The demand that there is no tab in white space and no document mark in a string. -/
def Demands.readable : Demands where
  gap g := '\t' ∉ g.chars
  text ls := ¬ HasMark ls.chars

theorem Name.each_readable (n : Name) : n.Each .readable ↔ ('\t' ∉ n.before.chars ∧
    ¬ HasMark n.letters.chars) ∧ '\t' ∉ n.gap.chars ∧ '\t' ∉ n.behind.chars := by
  simp [Name.Each, Demands.readable, and_assoc]

end Json

namespace Yaml

open Json Cursor

namespace Lexer

variable {l : Lexer} {d : Nat} {toks : List Token}

/-! ## Names -/

/-- A candidate behind which some characters have been passed, the only one of its level. -/
structure Remembers (l : Lexer) (d : Nat) (k : Candidate) (passed : List Char) : Prop where
  index : l.cursor.index = k.place.index + passed.length
  line : l.cursor.line = k.place.line + passed.countP isBreak
  only : ∀ e ∈ l.candidates, e.1 = d → e.2 = k
  mem : (d, k) ∈ l.candidates ↔ l.isStale k = false

variable {k : Candidate} {passed : List Char}

theorem isStale_eq (hindex : l.cursor.index = k.place.index + passed.length)
    (hline : l.cursor.line = k.place.line + passed.countP isBreak) :
    l.isStale k = !(passed.all (!isBreak ·) && decide (passed.length ≤ 1024)) := by
  have hall : passed.all (!isBreak ·) = (k.place.line == l.place.line) := by
    rw [Bool.eq_iff_iff]
    show _ ↔ (k.place.line == l.cursor.line) = true
    rw [hline]
    simp [List.countP_eq_zero]
  have hfar : decide (1024 < l.place.index - k.place.index) = !decide (passed.length ≤ 1024) := by
    show decide (1024 < l.cursor.index - k.place.index) = _
    rw [hindex, Nat.add_sub_cancel_left, Bool.eq_iff_iff]
    simp
  rw [isStale, hall, hfar, Bool.not_and]
  rfl

theorem Remembers.find? (h : Remembers l d k passed) :
    Entries.find? d l.candidates = if l.isStale k then none else some k := by
  by_cases hstale : l.isStale k = true
  · rw [if_pos hstale, Entries.find?_eq_none_iff]
    intro hmem
    obtain ⟨e, he, rfl⟩ := List.mem_map.mp hmem
    have hk : e = (e.1, k) := Prod.ext rfl (h.only e he rfl)
    exact absurd (h.mem.mp (hk ▸ he)) (by simp [hstale])
  · rw [if_neg hstale]
    have hmem : (d, k) ∈ l.candidates := h.mem.mpr (by simpa using hstale)
    cases hf : Entries.find? d l.candidates with
    | none => exact absurd (List.mem_map.mpr ⟨_, hmem, rfl⟩) (Entries.find?_eq_none_iff.mp hf)
    | some k' => exact congrArg some (h.only _ (Entries.mem_of_find? hf) rfl)

/-- The candidate is given up together with the others that lie too far back. -/
theorem Remembers.fresh (hindex : l.cursor.index = k.place.index + passed.length)
    (hline : l.cursor.line = k.place.line + passed.countP isBreak)
    (honly : ∀ e ∈ l.candidates, e.1 = d → e.2 = k)
    (hmem : (d, k) ∈ l.candidates ∨ l.isStale k = true) : Remembers l.fresh d k passed := by
  refine ⟨hindex, hline, fun e he => honly e (List.mem_filter.mp he).1, ?_⟩
  show (d, k) ∈ l.candidates.filter _ ↔ l.isStale k = false
  rw [List.mem_filter]
  rcases hmem with hmem | hstale
  · simp [hmem]
  · simp [hstale]

/-- Behind a string that may be a name. -/
theorem scans_nameString {n : Name} {ys : List Char} (h : At l d toks
      (n.before.chars ++ (n.letters.quoted ++ (n.gap.chars ++ ':' :: ys))))
    (hkey : l.allowsKey = true) :
    Scans l ('\t' ∉ n.before.chars ∧ ¬ HasMark n.letters.chars) fun l' =>
      At l' d (toks ++ [.scalar n.letters.folded false]) (n.gap.chars ++ ':' :: ys) ∧
        ∃ k : Candidate, k.position = toks.length ∧ Remembers l' d k n.letters.quoted := by
  refine scans_token h (by rintro y ⟨⟩; decide) (by simp [Letters.quoted]) ?_
  intro k hk a ha
  obtain ⟨hok, hbad⟩ := take_string ha
  refine ⟨fun hnot => ?_, fun hmark => hbad (not_not.mp hmark)⟩
  have htake := hok hnot _ (saveCandidate_eq ha (hk hkey))
  have hat : At { a with
      candidates := Entries.put a.depth a.candidateHere (Entries.erase a.depth a.candidates) }
        d toks (n.letters.quoted ++ (n.gap.chars ++ ':' :: ys)) := by
    refine { ha with optional := fun e he => ?_ }
    rcases Entries.mem_put he with rfl | he
    · rfl
    · exact optional_erase ha.optional e he
  have hb := hat.emitTo (.scalar n.letters.folded false) (rest_advanceBy ha.rest)
  obtain ⟨-, hindex, hline⟩ := advanceBy_of_rest ha.rest
  refine ⟨_, d, _, _, htake, { hb with }, by simp [Letters.quoted]; omega, At.fresh { hb with },
    a.candidateHere, ?_, Remembers.fresh hindex hline ?_ (.inl ?_)⟩
  · rw [← ha.tokens]
    simp [candidateHere]
  · intro e he heq
    rcases Entries.mem_put he with rfl | he
    · rfl
    · rw [← ha.depth] at heq
      exact absurd (List.mem_filter.mp he).2 (by simp [heq])
  · rw [← ha.depth]
    have hput : Entries.find? a.depth (Entries.put a.depth a.candidateHere
        (Entries.erase a.depth a.candidates)) = some a.candidateHere := by
      rw [Entries.find?_put, beq_self_eq_true, if_pos rfl]
    exact Entries.mem_of_find? hput

theorem confirm_tokens {t : Token} (hflow : l.inFlow = true) (hk : k.position = toks.length)
    (h : l.lexemes.reverse.map Lexeme.token = toks ++ [t]) :
    l.confirm k = { l with
      candidates := Entries.erase l.depth l.candidates
      lexemes := (l.confirm k).lexemes } ∧
    (l.confirm k).lexemes.reverse.map Lexeme.token = toks ++ [.key, t] := by
  have hconfirm : l.confirm k = { l with candidates := Entries.erase l.depth l.candidates : Lexer
      }.insert k.position ⟨.key, k.place, k.place⟩ := if_pos hflow
  rw [hconfirm]
  refine ⟨rfl, ?_⟩
  obtain ⟨s, ss, hs⟩ : ∃ s ss, l.lexemes = s :: ss := by
    cases hl : l.lexemes with
    | nil => simp [hl] at h
    | cons s ss => exact ⟨s, ss, rfl⟩
  rw [hs, List.reverse_cons, List.map_append] at h
  obtain ⟨hss, hlast⟩ := List.append_inj' h rfl
  have hlen : ss.length = toks.length := by
    have := congrArg List.length hss
    simpa using this
  have hlater : (s :: ss).length - k.position = 1 := by
    rw [hk, List.length_cons, hlen]
    omega
  have hs' : s.token = t := by simpa using hlast
  simp only [insert, hs, hlater, List.take_succ_cons, List.take_zero, List.drop_succ_cons,
    List.drop_zero, List.cons_append, List.nil_append, List.reverse_cons, List.map_append, hss,
    List.map_cons, List.map_nil, List.append_assoc, hs']

theorem take_colon {n : Name} {ys : List Char} (hd : 0 < d)
    (h : At l d (toks ++ [.scalar n.letters.folded false]) (':' :: ys))
    (hk : k.position = toks.length)
    (hmem : Remembers l d k (n.letters.quoted ++ n.gap.chars)) :
    ∃ b, l.take = .ok b ∧ At b d (toks ++ n.tokens) ys := by
  have hflow : l.inFlow = true := by
    rw [inFlow, h.depth]
    simpa using by omega
  have htake : l.take = l.takeValue := by
    simp [take, peek_eq h.rest, atMark_eq_false h.rest, hflow]
  have hstale : l.isStale k = !n.isConfirmed := isStale_eq hmem.index hmem.line
  have hfind := hmem.find?
  rw [hstale, ← h.depth] at hfind
  rw [htake, Name.tokens]
  by_cases hc : n.isConfirmed = true
  · simp only [hc, Bool.not_true, Bool.false_eq_true, if_false] at hfind
    obtain ⟨hconfirm, htokens⟩ := confirm_tokens hflow hk h.tokens
    have hat : At (l.confirm k) d (toks ++ [.key, .scalar n.letters.folded false]) (':' :: ys) := by
      rw [hconfirm]
      exact { h with optional := optional_erase h.optional, tokens := htokens }
    have hb := hat.emitTo .value (rest_advance hat.rest)
    rw [takeValue, hfind]
    refine ⟨_, rfl, { hb with tokens := ?_ }⟩
    exact hb.tokens.trans (by simp [hc])
  · simp only [hc, Bool.not_false, if_true] at hfind
    have hdrop : (l.allowKey (!l.inFlow)).dropCandidate = .ok (l.allowKey (!l.inFlow)) := by
      rw [dropCandidate, show Entries.find? (l.allowKey (!l.inFlow)).depth
        (l.allowKey (!l.inFlow)).candidates = none from hfind]
    have hb := h.emitTo .value (rest_advance h.rest)
    rw [takeValue, hfind]
    refine ⟨(l.allowKey (!l.inFlow)).emitChar .value, ?_, { hb with tokens := ?_ }⟩
    · show (l.startBlock .value .blockMappingStart >>= _) = _
      rw [startBlock, if_pos hflow]
      show ((l.allowKey (!l.inFlow)).dropCandidate >>= _) = _
      rw [hdrop]
      rfl
    · exact hb.tokens.trans (by simp [hc])

theorem Remembers.pass (h : Remembers l d k passed) {gap ys : List Char} {b : Bool}
    (hrest : l.cursor.rest = gap ++ ys) :
    Remembers { l with cursor := l.cursor.advanceBy gap.length, allowsKey := b : Lexer }.fresh d k
      (passed ++ gap) := by
  obtain ⟨-, hindex, hline⟩ := advanceBy_of_rest hrest
  have hindex' : (l.cursor.advanceBy gap.length).index =
      k.place.index + (passed ++ gap).length := by
    rw [hindex, h.index, List.length_append]
    omega
  have hline' : (l.cursor.advanceBy gap.length).line =
      k.place.line + (passed ++ gap).countP isBreak := by
    rw [hline, h.line, List.countP_append]
    omega
  refine Remembers.fresh hindex' hline' h.only ?_
  by_cases hmem : (d, k) ∈ l.candidates
  · exact .inl hmem
  · -- What lay too far back does so all the more.
    have hstale : l.isStale k = true := by simpa using mt h.mem.mpr hmem
    rw [isStale_eq h.index h.line] at hstale
    refine .inr ((isStale_eq hindex' hline').trans ?_)
    simp only [Bool.not_eq_true', Bool.and_eq_false_iff, List.all_append, List.length_append,
      decide_eq_false_iff_not] at hstale ⊢
    rcases hstale with hstale | hstale
    · exact .inl (.inl hstale)
    · exact .inr (by omega)

/-- A name and its colon. -/
theorem scans_name {n : Name} {ys : List Char} (hd : 0 < d) (h : At l d toks (n.before.chars ++
      (n.letters.quoted ++ (n.gap.chars ++ ':' :: ys)))) (hkey : l.allowsKey = true) :
    Scans l (('\t' ∉ n.before.chars ∧ ¬ HasMark n.letters.chars) ∧ '\t' ∉ n.gap.chars)
      fun l' => At l' d (toks ++ n.tokens) ys := by
  refine (scans_nameString h hkey).bind ?_
  rintro l' ⟨hl', k, hk, hmem⟩
  refine scans_token_of_take hl' (by rintro y ⟨⟩; decide) (by simp) fun b ha => ?_
  obtain ⟨c, hc, hat⟩ := take_colon hd ha hk (hmem.pass hl'.rest)
  exact ⟨c, d, _, _, hc, hat, by simp, hat.fresh⟩

/-! ## Trees -/

theorem scans_opening {g : Gap} {x : Char} {ys : List Char} {t : Token}
    (h : At l d toks (g.chars ++ x :: ys))
    (ht : (x = '[' ∧ t = .flowSequenceStart) ∨ (x = '\x7b' ∧ t = .flowMappingStart)) :
    Scans l ('\t' ∉ g.chars) fun l' => At l' (d + 1) (toks ++ [t]) ys ∧ l'.allowsKey = true := by
  have hys : EndsSpace (x :: ys) := by
    rcases ht with ⟨rfl, -⟩ | ⟨rfl, -⟩ <;> rintro y ⟨⟩ <;> decide
  refine scans_token_of_take h hys (by simp) fun _ ha => ?_
  obtain ⟨b, hb, hat, hkey⟩ := take_opening ha ht
  exact ⟨b, _, _, _, hb, hat, by simp, hat.fresh, hkey⟩

/-- White space in which there is a tab exactly if there is one in other white space. -/
theorem scans_closing {g g' : Gap} {x : Char} {ys : List Char} {t : Token}
    (htab : '\t' ∈ g'.chars ↔ '\t' ∈ g.chars) (h : At l (d + 1) toks (g'.chars ++ x :: ys))
    (ht : (x = ']' ∧ t = .flowSequenceEnd) ∨ (x = '\x7d' ∧ t = .flowMappingEnd)) :
    Scans l ('\t' ∉ g.chars) fun l' => At l' d (toks ++ [t]) ys := by
  have hys : EndsSpace (x :: ys) := by
    rcases ht with ⟨rfl, -⟩ | ⟨rfl, -⟩ <;> rintro y ⟨⟩ <;> decide
  refine Scans.imp (scans_token_of_take h hys (by simp) fun _ ha => ?_) (not_congr htab.symm)
    fun l' => id
  obtain ⟨b, hb, hat⟩ := take_closing ha ht
  exact ⟨b, _, _, _, hb, hat, by simp, hat.fresh⟩

theorem scans_comma {g g' : Gap} {ys : List Char}
    (htab : '\t' ∈ g'.chars ↔ '\t' ∈ g.chars) (h : At l d toks (g'.chars ++ ',' :: ys)) :
    Scans l ('\t' ∉ g.chars) fun l' =>
      At l' d (toks ++ [.flowComma]) ys ∧ l'.allowsKey = true := by
  refine Scans.imp (scans_token_of_take h (by rintro y ⟨⟩; decide) (by simp) fun _ ha => ?_)
    (not_congr htab.symm) fun l' => id
  obtain ⟨b, hb, hat, hkey⟩ := take_comma ha
  exact ⟨b, _, _, _, hb, hat, by simp, hat.fresh, hkey⟩

/-- Behind a tree, whose last token may have taken white space up to a tab. -/
def Past (d : Nat) (toks : List Token) (after : Gap) (ys : List Char) (l : Lexer) : Prop :=
  ∃ after' : Gap, ('\t' ∈ after'.chars ↔ '\t' ∈ after.chars) ∧ At l d toks (after'.chars ++ ys)

theorem scans_string {ls : Letters} {g after : Gap} {ys : List Char}
    (h : At l d toks (g.chars ++ (ls.quoted ++ (after.chars ++ ys)))) :
    Scans l ('\t' ∉ g.chars ∧ ¬ HasMark ls.chars)
      (Past d (toks ++ [.scalar ls.folded false]) after ys) := by
  refine scans_token h (by rintro y ⟨⟩; decide) (by simp [Letters.quoted]) ?_
  intro _ _ a ha
  obtain ⟨hok, hbad⟩ := take_string ha
  refine ⟨fun hnot => ?_, fun hmark => hbad (not_not.mp hmark)⟩
  obtain ⟨candidates, hsave, hat⟩ := exists_saveCandidate ha
  have hb := hat.emitTo (.scalar ls.folded false) (rest_advanceBy ha.rest)
  exact ⟨_, d, _, _, hok hnot _ hsave, { hb with }, by simp [Letters.quoted]; omega,
    after, Iff.rfl, At.fresh { hb with }⟩

theorem scans_bare {b : Bare} {g after : Gap} {y : Char} {ys : List Char} (hd : 0 < d)
    (hy : IsCloser y) (h : At l d toks (g.chars ++ (b.chars ++ (after.chars ++ y :: ys)))) :
    Scans l ('\t' ∉ g.chars)
      (Past d (toks ++ [.scalar (String.ofList b.chars) true]) after (y :: ys)) := by
  obtain ⟨x, xs, hx, hhead, -⟩ := exists_bare_head b
  have hends : ∀ x ∈ bareHeads, x ≠ ' ' ∧ isBreak x = false ∧ x ≠ '#' ∧ x ≠ byteOrderMark :=
    List.all_iff_forall_prop.mp (by decide)
  have hspace : EndsSpace (b.chars ++ (after.chars ++ y :: ys)) := by
    rw [hx]
    rintro z ⟨⟩
    exact hends x hhead
  refine scans_token_of_take h hspace (by simp [hx]) fun _ ha => ?_
  obtain ⟨c, after', hc, hat, htab, hlt⟩ := take_bare hd hy ha
  exact ⟨c, d, _, _, hc, hat, hlt, after', htab, hat.fresh⟩

mutual

/-- A tree is read if it may be: a collection anywhere, another tree within a collection. -/
theorem scans_tree (t : Tree) {l : Lexer} {d : Nat} {toks : List Token} {g after : Gap}
    {ys : List Char} (hp : t.isCollection = true ∨ 0 < d ∧ ∃ y zs, ys = y :: zs ∧ IsCloser y)
    (h : At l d toks (g.chars ++ (t.chars ++ (after.chars ++ ys)))) :
    Scans l ('\t' ∉ g.chars ∧ t.Each .readable) (Past d (toks ++ t.tokens) after ys) := by
  cases t with
  | string ls => exact scans_string h
  | bare b =>
    obtain ⟨hd, y, zs, rfl, hy⟩ := hp.resolve_left Bool.false_ne_true
    exact (scans_bare hd hy h).imp (and_iff_left trivial) fun _ => id
  | emptyList gap =>
    have hat : At l d toks (g.chars ++ '[' :: (gap.chars ++ ']' :: (after.chars ++ ys))) := by
      simpa [Tree.chars] using h
    refine (scans_opening hat (.inl ⟨rfl, rfl⟩)).bind fun l' hl' => ?_
    refine (scans_closing Iff.rfl hl'.1 (.inl ⟨rfl, rfl⟩)).imp Iff.rfl fun l'' hl'' => ?_
    exact ⟨after, Iff.rfl, by simpa [Tree.tokens] using hl''⟩
  | list items =>
    have hat : At l d toks (g.chars ++ '[' :: (items.chars ++ ']' :: (after.chars ++ ys))) := by
      simpa [Tree.chars] using h
    refine (scans_opening hat (.inl ⟨rfl, rfl⟩)).bind fun l' hl' => ?_
    refine (scans_items items hl'.1).imp Iff.rfl fun l'' hl'' => ?_
    exact ⟨after, Iff.rfl, by simpa [Tree.tokens] using hl''⟩
  | emptyObject gap =>
    have hat : At l d toks
        (g.chars ++ '\x7b' :: (gap.chars ++ '\x7d' :: (after.chars ++ ys))) := by
      simpa [Tree.chars] using h
    refine (scans_opening hat (.inr ⟨rfl, rfl⟩)).bind fun l' hl' => ?_
    refine (scans_closing Iff.rfl hl'.1 (.inr ⟨rfl, rfl⟩)).imp Iff.rfl fun l'' hl'' => ?_
    exact ⟨after, Iff.rfl, by simpa [Tree.tokens] using hl''⟩
  | object members =>
    have hat : At l d toks
        (g.chars ++ '\x7b' :: (members.chars ++ '\x7d' :: (after.chars ++ ys))) := by
      simpa [Tree.chars] using h
    refine (scans_opening hat (.inr ⟨rfl, rfl⟩)).bind fun l' hl' => ?_
    refine (scans_members members hl'.1 hl'.2).imp Iff.rfl fun l'' hl'' => ?_
    exact ⟨after, Iff.rfl, by simpa [Tree.tokens] using hl''⟩

theorem scans_items (items : Items) {l : Lexer} {d : Nat} {toks : List Token} {ys : List Char}
    (h : At l (d + 1) toks (items.chars ++ ']' :: ys)) :
    Scans l (items.Each .readable)
      fun l' => At l' d (toks ++ items.tokens ++ [.flowSequenceEnd]) ys := by
  cases items with
  | last before t after =>
    have hat : At l (d + 1) toks
        (before.chars ++ (t.chars ++ (after.chars ++ ']' :: ys))) := by
      simpa [Items.chars] using h
    refine Scans.imp ((scans_tree t (.inr ⟨Nat.succ_pos d, _, _, rfl, .inr (.inl rfl)⟩) hat).bind
      fun l' ⟨after', htab, hl'⟩ => scans_closing htab hl' (.inl ⟨rfl, rfl⟩)) and_assoc.symm
      fun l' => id
  | more before t after rest =>
    have hat : At l (d + 1) toks
        (before.chars ++ (t.chars ++ (after.chars ++ ',' :: (rest.chars ++ ']' :: ys)))) := by
      simpa [Items.chars] using h
    refine Scans.imp (((scans_tree t (.inr ⟨Nat.succ_pos d, _, _, rfl, .inl rfl⟩) hat).bind
      fun l' ⟨after', htab, hl'⟩ => scans_comma htab hl').bind
      fun l' hl' => scans_items rest hl'.1) ?_ fun l' hl' => ?_
    · simp only [Items.Each, and_assoc]
      rfl
    · simpa [Items.tokens] using hl'

theorem scans_members (members : Members) {l : Lexer} {d : Nat} {toks : List Token}
    {ys : List Char} (h : At l (d + 1) toks (members.chars ++ '\x7d' :: ys))
    (hkey : l.allowsKey = true) :
    Scans l (members.Each .readable)
      fun l' => At l' d (toks ++ members.tokens ++ [.flowMappingEnd]) ys := by
  cases members with
  | last n t after =>
    have hat : At l (d + 1) toks (n.before.chars ++ (n.letters.quoted ++ (n.gap.chars ++
        ':' :: (n.behind.chars ++ (t.chars ++ (after.chars ++ '\x7d' :: ys)))))) := by
      simpa [Members.chars, Name.chars] using h
    refine Scans.imp (((scans_name (Nat.succ_pos d) hat hkey).bind
      fun l' hl' => scans_tree t (.inr ⟨Nat.succ_pos d, _, _, rfl, .inr (.inr rfl)⟩) hl').bind
      fun l' ⟨after', htab, hl'⟩ => scans_closing htab hl' (.inr ⟨rfl, rfl⟩)) ?_ fun l' hl' => ?_
    · simp only [Members.Each, n.each_readable, and_assoc]
      rfl
    · simpa [Members.tokens] using hl'
  | more n t after rest =>
    have hat : At l (d + 1) toks (n.before.chars ++ (n.letters.quoted ++ (n.gap.chars ++
        ':' :: (n.behind.chars ++ (t.chars ++
          (after.chars ++ ',' :: (rest.chars ++ '\x7d' :: ys))))))) := by
      simpa [Members.chars, Name.chars] using h
    refine Scans.imp ((((scans_name (Nat.succ_pos d) hat hkey).bind
      fun l' hl' => scans_tree t (.inr ⟨Nat.succ_pos d, _, _, rfl, .inl rfl⟩) hl').bind
      fun l' ⟨after', htab, hl'⟩ => scans_comma htab hl').bind
      fun l' hl' => scans_members rest hl'.1 hl'.2) ?_ fun l' hl' => ?_
    · simp only [Members.Each, n.each_readable, and_assoc]
      rfl
    · simpa [Members.tokens] using hl'

end

/-! ## Documents -/

theorem run_of_approach_end {a : Lexer} (happroach : l.approach = .ok a) (h : At a d toks [])
    (n : Nat) : run (n + 1) l = ⟨a.lexemes.reverse, .complete a.place⟩ := by
  have hempty : a.cursor.rest.isEmpty = true := by rw [h.rest]; rfl
  have hclose : a.closeBlocks (-1) = a := by
    show unwind _ a.outer a = a
    rw [h.outer, unwind]
  rw [run_succ, happroach]
  dsimp only
  rw [hempty, if_pos rfl, hclose, dropCandidate_eq h.optional]
  rfl

/-- At the end of a text there are no more tokens. -/
theorem run_of_end {g : Gap} (h : At l 0 toks g.chars) {n : Nat} (hn : l.cursor.rest.length < n) :
    ('\t' ∉ g.chars → (run n l).lexemes.map Lexeme.token = toks ∧
      ∃ place, (run n l).ending = .complete place) ∧
    ('\t' ∈ g.chars → ∃ p, (run n l).ending = .broken p) := by
  refine ⟨fun hclean => ?_, fun htab => ?_⟩
  · obtain ⟨n, rfl⟩ : ∃ k, n = k + 1 := ⟨n - 1, by omega⟩
    rw [← List.append_nil g.chars] at h
    obtain ⟨k, -, happroach⟩ := exists_approach h (isFoldable_of_clean hclean)
      (by simp [EndsSpace])
    have ha : At { l with cursor := l.cursor.advanceBy g.chars.length, allowsKey := k : Lexer }
        0 toks [] := { h with rest := rest_advanceBy h.rest }
    rw [run_of_approach_end happroach ha.fresh n]
    exact ⟨ha.fresh.tokens, _, rfl⟩
  · rw [← List.append_nil g.chars] at h
    exact fails_of_tab h htab n hn

theorem ofText_of_allowed (h : ∀ c ∈ cs, isAllowed c = true) :
    Lexemes.ofText (String.ofList cs) = run (cs.length + 1) { cursor := { rest := cs } } := by
  simp only [Lexemes.ofText, String.toList_ofList, List.dropWhile_eq_nil_iff.mpr h]

theorem ofText_of_forbidden (h : ¬ ∀ c ∈ cs, isAllowed c = true) :
    ∃ p, (Lexemes.ofText (String.ofList cs)).ending = .broken p := by
  cases hdrop : cs.dropWhile isAllowed with
  | nil => exact absurd (List.dropWhile_eq_nil_iff.mp hdrop) h
  | cons c rest =>
    refine ⟨.forbidden c (cs.takeWhile isAllowed).length, ?_⟩
    simp only [Lexemes.ofText, String.toList_ofList, hdrop]

/-- The text of a document with a collection is read exactly if its characters are allowed, no tab
stands in its white space and no document mark in its strings. -/
theorem ofText_document {t : Json.Document} (ht : t.tree.isCollection = true) :
    ((∀ c ∈ t.chars, isAllowed c = true) ∧ t.Each .readable →
      (Lexemes.ofText (String.ofList t.chars)).lexemes.map Lexeme.token = t.tree.tokens ∧
        ∃ place, (Lexemes.ofText (String.ofList t.chars)).ending = .complete place) ∧
    (¬ ((∀ c ∈ t.chars, isAllowed c = true) ∧ t.Each .readable) →
      ∃ p, (Lexemes.ofText (String.ofList t.chars)).ending = .broken p) := by
  by_cases hall : ∀ c ∈ t.chars, isAllowed c = true
  case neg => exact ⟨fun h => absurd h.1 hall, fun _ => ofText_of_forbidden hall⟩
  rw [ofText_of_allowed hall]
  let start : Lexer := { cursor := { rest := t.chars } }
  have hstart : At start 0 [] (t.before.chars ++ (t.tree.chars ++ (t.after.chars ++ []))) :=
    ⟨rfl, rfl, by simp [start], rfl, rfl, by simp [start, Document.chars]⟩
  have hlt : start.cursor.rest.length < t.chars.length + 1 := Nat.lt_succ_self _
  have hscan := scans_tree t.tree (.inl ht) hstart
  refine ⟨fun hread => ?_, fun hnot => ?_⟩
  · obtain ⟨-, hbefore, htree, hafter⟩ := hread
    obtain ⟨l', hreach, after', htab, hl'⟩ := hscan.reaches ⟨hbefore, htree⟩
    obtain ⟨m, hm, heq⟩ := hreach _ hlt
    rw [List.append_nil] at hl'
    rw [heq]
    exact (run_of_end hl' hm).1 (mt htab.mp hafter)
  · by_cases hok : '\t' ∉ t.before.chars ∧ t.tree.Each .readable
    · obtain ⟨l', hreach, after', htab, hl'⟩ := hscan.reaches hok
      obtain ⟨m, hm, heq⟩ := hreach _ hlt
      rw [List.append_nil] at hl'
      rw [heq]
      have hafter : '\t' ∈ t.after.chars :=
        not_not.mp fun hclean => hnot ⟨hall, hok.1, hok.2, hclean⟩
      exact (run_of_end hl' hm).2 (htab.mpr hafter)
    · exact hscan.fails hok _ hlt

end Lexer

end Yaml

end RemoteBindings
