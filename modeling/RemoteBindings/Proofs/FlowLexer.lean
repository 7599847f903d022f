import RemoteBindings.Proofs.BareScalars
import RemoteBindings.Proofs.Entries
import RemoteBindings.Proofs.QuotedScalars
import RemoteBindings.Yaml.Lexer

/-!
# Steps of the lexer in flow collections

Outside of all blocks the lexer is in a state `At`: no candidate for a key is required there, and
what it does depends on the characters that are left. White space is passed up to the first tab, at
which no token begins; a token behind white space without a tab is read in one step (`scans_token`).
The tokens of JSON are opening and closing marks, commas, strings in double quotes (`take_string`)
and bare values (`take_bare`). `Scans` states what a whole text comes to, whatever fuel there is.
-/

namespace RemoteBindings

namespace Yaml

open Json Cursor

namespace Lexer

/-! ## Runs -/

section

/- Kept closed, or the two sides of the equations below would be computed. -/
attribute [local irreducible] approach Cursor.takeBreak?

theorem run_succ (n : Nat) (l : Lexer) : run (n + 1) l = match l.approach with
    | .error e => l.stopped e
    | .ok next =>
      if next.cursor.rest.isEmpty then
        match (next.closeBlocks (-1)).dropCandidate with
        | .error e => l.stopped e
        | .ok next => ⟨next.lexemes.reverse, .complete next.place⟩
      else match next.take >>= dropStale with
        | .error e => l.stopped e
        | .ok next => run n next := rfl

theorem skipToToken_succ (fuel : Nat) (l : Lexer) : skipToToken (fuel + 1) l =
    let c := l.cursor.skipSpaces
    let c := if c.peek == '#' then c.skip fun x => !isBreak x else c
    match c.takeBreak? with
    | none => l.moveTo c
    | some (_, next) =>
      skipToToken fuel { l with cursor := next, allowsKey := l.allowsKey || !l.inFlow } := rfl

end

/-- The lexer comes from one state to another, whatever fuel beyond the length of the text it
has. -/
def Reaches (l l' : Lexer) : Prop :=
  ∀ n, l.cursor.rest.length < n → ∃ m, l'.cursor.rest.length < m ∧ run n l = run m l'

/-- The text cannot be read to its end. -/
def Fails (l : Lexer) : Prop :=
  ∀ n, l.cursor.rest.length < n → ∃ p, (run n l).ending = .broken p

/-- What becomes of a text that can be read under a condition: the lexer comes to a state with a
property if the condition holds, and otherwise fails. -/
structure Scans (l : Lexer) (ok : Prop) (post : Lexer → Prop) : Prop where
  reaches : ok → ∃ l', Reaches l l' ∧ post l'
  fails : ¬ ok → Fails l

theorem Reaches.trans {l₁ l₂ l₃ : Lexer} (h : Reaches l₁ l₂) (h' : Reaches l₂ l₃) :
    Reaches l₁ l₃ := by
  intro n hn
  obtain ⟨m, hm, heq⟩ := h n hn
  obtain ⟨k, hk, heq'⟩ := h' m hm
  exact ⟨k, hk, heq.trans heq'⟩

theorem Reaches.fails {l l' : Lexer} (h : Reaches l l') (h' : Fails l') : Fails l := by
  intro n hn
  obtain ⟨m, hm, heq⟩ := h n hn
  rw [heq]
  exact h' m hm

theorem Scans.bind {l : Lexer} {ok ok' : Prop} {post post' : Lexer → Prop}
    (h : Scans l ok post) (h' : ∀ l', post l' → Scans l' ok' post') :
    Scans l (ok ∧ ok') post' := by
  refine ⟨fun ⟨hok, hok'⟩ => ?_, fun hnot => ?_⟩
  · obtain ⟨l', hreach, hpost⟩ := h.reaches hok
    obtain ⟨l'', hreach', hpost'⟩ := (h' l' hpost).reaches hok'
    exact ⟨l'', hreach.trans hreach', hpost'⟩
  · by_cases hok : ok
    · obtain ⟨l', hreach, hpost⟩ := h.reaches hok
      exact hreach.fails ((h' l' hpost).fails fun hok' => hnot ⟨hok, hok'⟩)
    · exact h.fails hok

theorem Scans.imp {l : Lexer} {ok ok' : Prop} {post post' : Lexer → Prop} (h : Scans l ok post)
    (hok : ok' ↔ ok) (hpost : ∀ l', post l' → post' l') : Scans l ok' post' :=
  ⟨fun h' => (h.reaches (hok.mp h')).imp fun _ ⟨hreach, hl⟩ => ⟨hreach, hpost _ hl⟩,
    fun h' => h.fails (mt hok.mpr h')⟩

/-- One token is read. -/
theorem reaches_of_step {l a b l' : Lexer} (happroach : l.approach = .ok a)
    (hne : a.cursor.rest ≠ []) (htake : a.take = .ok b) (hdrop : b.dropStale = .ok l')
    (hlt : l'.cursor.rest.length < l.cursor.rest.length) : Reaches l l' := by
  intro n hn
  obtain ⟨n, rfl⟩ : ∃ k, n = k + 1 := ⟨n - 1, by omega⟩
  refine ⟨n, by omega, ?_⟩
  have hempty : a.cursor.rest.isEmpty = false := List.isEmpty_eq_false_iff.mpr hne
  have hstep : (a.take >>= dropStale) = .ok l' := by rw [htake]; exact hdrop
  rw [run_succ, happroach]
  dsimp only
  rw [hempty, hstep]
  rfl

theorem fails_of_take {l a : Lexer} {p : Problem} (happroach : l.approach = .ok a)
    (hne : a.cursor.rest ≠ []) (htake : a.take = .error p) : Fails l := by
  intro n hn
  obtain ⟨n, rfl⟩ : ∃ k, n = k + 1 := ⟨n - 1, by omega⟩
  refine ⟨p, ?_⟩
  have hempty : a.cursor.rest.isEmpty = false := List.isEmpty_eq_false_iff.mpr hne
  have hstep : (a.take >>= dropStale) = .error p := by rw [htake]; rfl
  rw [run_succ, happroach]
  dsimp only
  rw [hempty, hstep]
  rfl

/-! ## States outside of blocks -/

/-- A state outside of all blocks, in `d` flow collections: the tokens so far and the characters
that are left. No key is required there. -/
structure At (l : Lexer) (d : Nat) (toks : List Token) (cs : List Char) : Prop where
  indent : l.indent = -1
  outer : l.outer = []
  optional : ∀ e ∈ l.candidates, e.2.required = false
  depth : l.depth = d
  tokens : l.lexemes.reverse.map Lexeme.token = toks
  rest : l.cursor.rest = cs

variable {l : Lexer} {d : Nat} {toks : List Token} {cs : List Char}

/-- The state without the candidates that lie too far back. -/
def fresh (l : Lexer) : Lexer :=
  { l with candidates := l.candidates.filter fun e => !l.isStale e.2 }

theorem At.fresh (h : At l d toks cs) : At l.fresh d toks cs :=
  { h with optional := fun e he => h.optional e (List.mem_filter.mp he).1 }

theorem dropStale_eq (h : ∀ e ∈ l.candidates, e.2.required = false) :
    l.dropStale = .ok l.fresh := by
  have hnone : l.candidates.values.find? (fun k => l.isStale k && k.required) = none := by
    rw [List.find?_eq_none]
    intro k hk
    obtain ⟨e, he, rfl⟩ := List.mem_map.mp hk
    simp [h e he]
  rw [dropStale, hnone]
  rfl

/-- What ends white space: something else than a space, a break, a comment or the mark that may
stand at the start of a text. -/
def EndsSpace (ys : List Char) : Prop :=
  ∀ y ∈ ys.head?, y ≠ ' ' ∧ isBreak y = false ∧ y ≠ '#' ∧ y ≠ byteOrderMark

theorem skipToToken_eq {fuel : Nat} {gap ys : List Char} (hc : l.cursor.rest = gap ++ ys)
    (hgap : ∀ x ∈ gap, IsFoldable x) (hys : EndsSpace ys) (hfuel : gap.length < fuel) :
    ∃ k, skipToToken fuel l =
      { l with cursor := l.cursor.advanceBy gap.length, allowsKey := k } ∧
        (l.allowsKey = true → k = true) := by
  induction fuel generalizing l gap with
  | zero => omega
  | succ fuel ih =>
    rcases spaces_or_break hgap with hspaces | ⟨spaces, b, rest, rfl, hspaces, hb, hrest⟩
    · have hskip : l.cursor.skipSpaces = l.cursor.advanceBy gap.length :=
        skip_eq hc (fun x hx => by simp [hspaces x hx]) fun y hy => by simpa using (hys y hy).1
      have hbehind := rest_advanceBy hc
      have hstop : (l.cursor.advanceBy gap.length).takeBreak? = none ∧
          ((l.cursor.advanceBy gap.length).peek == '#') = false := by
        cases ys with
        | nil => simp [takeBreak?, peek, hbehind, isBreak, endMark]
        | cons y ys =>
          obtain ⟨-, hbreak, hcomment, -⟩ := hys y rfl
          simp [takeBreak?, peek_eq hbehind, hbreak, hcomment]
      refine ⟨l.allowsKey, ?_, id⟩
      simp only [skipToToken_succ, hskip, hstop.1, hstop.2, Bool.false_eq_true, if_false, moveTo]
    · rw [List.append_assoc, List.cons_append] at hc
      have hskip : l.cursor.skipSpaces = l.cursor.advanceBy spaces.length :=
        skip_eq hc (fun x hx => by simp [hspaces x hx]) fun y hy => by
          obtain rfl := Option.some.inj hy
          simpa using fun h => absurd (h ▸ hb) (by decide)
      have hbehind := rest_advanceBy hc
      have hcomment : ((l.cursor.advanceBy spaces.length).peek == '#') = false := by
        rw [peek_eq hbehind]
        simpa using fun h => absurd (h ▸ hb) (by decide)
      obtain ⟨k, hk, hkey⟩ := ih (l := { l with
          cursor := (l.cursor.advanceBy spaces.length).advance
          allowsKey := l.allowsKey || !l.inFlow }) (rest_advance hbehind) hrest
        (by simp at hfuel; omega)
      refine ⟨k, ?_, fun h => hkey (by simp [h])⟩
      simp only [skipToToken_succ, hskip, hcomment, takeBreak?_eq_some hb hbehind,
        Bool.false_eq_true, if_false, hk, List.length_append, List.length_cons, advanceBy_add,
        advanceBy]

/-- The lexer passes white space. -/
theorem exists_approach {gap ys : List Char} (h : At l d toks (gap ++ ys))
    (hgap : ∀ x ∈ gap, IsFoldable x) (hys : EndsSpace ys) :
    ∃ k, (l.allowsKey = true → k = true) ∧
      l.approach = .ok
        { l with cursor := l.cursor.advanceBy gap.length, allowsKey := k : Lexer }.fresh := by
  have hmark : l.skipOrderMark = l := by
    refine if_neg fun hmark => ?_
    have hpeek := hmark.2
    rw [peek, h.rest] at hpeek
    cases gap with
    | nil => cases ys with
      | nil => exact absurd hpeek (by decide)
      | cons y ys => exact (hys y rfl).2.2.2 hpeek
    | cons x gap =>
      rcases hgap x List.mem_cons_self with hx | hx
      · exact absurd (hx.symm.trans hpeek) (by decide)
      · exact absurd ((show x = byteOrderMark from hpeek) ▸ hx) (by decide)
  have hfuel : gap.length < l.cursor.rest.length + 1 := by
    rw [h.rest, List.length_append]
    omega
  obtain ⟨k, hskip, hkey⟩ := skipToToken_eq h.rest hgap hys hfuel
  refine ⟨k, hkey, ?_⟩
  rw [approach, hmark, hskip]
  let p : Lexer := { l with cursor := l.cursor.advanceBy gap.length, allowsKey := k }
  have hclose : p.fresh.closeBlocks p.fresh.cursor.column = p.fresh := by
    show unwind _ l.outer p.fresh = p.fresh
    rw [h.outer, unwind]
  show (p.dropStale >>= fun l => pure (l.closeBlocks l.cursor.column)) = .ok p.fresh
  rw [dropStale_eq (l := p) h.optional]
  exact congrArg Except.ok hclose

theorem isFoldable_of_mem {g : Gap} {x : Char} (hx : x ∈ g.chars) (hne : x ≠ '\t') :
    IsFoldable x := by
  rcases g.blank x hx with rfl | rfl | rfl
  · exact .inl rfl
  · exact absurd rfl hne
  · exact .inr rfl

theorem isFoldable_of_clean {g : Gap} (h : '\t' ∉ g.chars) : ∀ x ∈ g.chars, IsFoldable x :=
  fun _ hx => isFoldable_of_mem hx fun heq => h (heq ▸ hx)

theorem exists_first_tab {g : Gap} (h : '\t' ∈ g.chars) : ∃ before after : List Char,
    g.chars = before ++ '\t' :: after ∧ ∀ x ∈ before, IsFoldable x := by
  obtain ⟨before, after, hsplit, hbefore⟩ := List.eq_append_cons_of_mem h
  exact ⟨before, after, hsplit, fun x hx =>
    isFoldable_of_mem (hsplit ▸ List.mem_append_left _ hx) fun heq => hbefore (heq ▸ hx)⟩

/-- White space up to the first tab, and the rest of it. -/
theorem exists_gap_split (g : Gap) : ∃ (before : List Char) (after : Gap),
    g.chars = before ++ after.chars ∧ (∀ x ∈ before, IsFoldable x) ∧
      (∀ x ∈ after.chars.head?, x = '\t') ∧ ('\t' ∈ after.chars ↔ '\t' ∈ g.chars) := by
  by_cases htab : '\t' ∈ g.chars
  · obtain ⟨before, after, hsplit, hgap⟩ := exists_first_tab htab
    have hblank : ∀ x ∈ '\t' :: after, x = ' ' ∨ x = '\t' ∨ x = '\n' := fun x hx =>
      g.blank x (hsplit ▸ List.mem_append_right _ hx)
    exact ⟨before, ⟨'\t' :: after, hblank⟩, hsplit, hgap, by simp, by simp [htab]⟩
  · exact ⟨g.chars, ⟨[], by simp⟩, by simp, isFoldable_of_clean htab, by simp, by simp [htab]⟩

/-! ## Single tokens -/

theorem atMark_eq_false {c : Cursor} {x m : Char} {ys : List Char} (h : c.rest = x :: ys)
    (hne : x ≠ m) : c.atMark m = false := by
  simp [atMark, h, hne]

theorem take_tab {ys : List Char} (h : l.cursor.rest = '\t' :: ys) : ∃ e, l.take = .error e := by
  refine ⟨.defect ⟨.nextToken, .noToken '\t', l.place⟩, ?_⟩
  simp [take, startsPlain, peek_eq h, atMark_eq_false h, separates, isGap, refuse]

/-- No token begins at the first tab of white space. -/
theorem fails_of_tab {g : Gap} {ys : List Char} (h : At l d toks (g.chars ++ ys))
    (htab : '\t' ∈ g.chars) : Fails l := by
  obtain ⟨before, after, hsplit, hgap⟩ := exists_first_tab htab
  rw [hsplit, List.append_assoc, List.cons_append] at h
  obtain ⟨k, -, happroach⟩ := exists_approach h hgap (by rintro y ⟨⟩; decide)
  have hrest := rest_advanceBy h.rest
  obtain ⟨e, he⟩ := take_tab (l := fresh { l with
    cursor := l.cursor.advanceBy before.length, allowsKey := k }) hrest
  refine fails_of_take happroach ?_ he
  show (l.cursor.advanceBy before.length).rest ≠ []
  simp [hrest]

/-- White space without a tab can be passed, and a token behind it be read. -/
theorem scans_token {g : Gap} {ys : List Char} {ok : Prop} {post : Lexer → Prop}
    (h : At l d toks (g.chars ++ ys)) (hys : EndsSpace ys) (hne : ys ≠ [])
    (hread : ∀ k, (l.allowsKey = true → k = true) →
      let a := { l with cursor := l.cursor.advanceBy g.chars.length, allowsKey := k : Lexer }.fresh
      At a d toks ys → (ok → ∃ b d' toks' zs, a.take = .ok b ∧ At b d' toks' zs ∧
        zs.length < ys.length ∧ post b.fresh) ∧ (¬ ok → ∃ e, a.take = .error e)) :
    Scans l ('\t' ∉ g.chars ∧ ok) post := by
  by_cases htab : '\t' ∈ g.chars
  · exact ⟨fun hok => absurd htab hok.1, fun _ => fails_of_tab h htab⟩
  · obtain ⟨k, hk, happroach⟩ := exists_approach h (isFoldable_of_clean htab) hys
    have ha : At { l with cursor := l.cursor.advanceBy g.chars.length, allowsKey := k : Lexer }
        d toks ys := { h with rest := rest_advanceBy h.rest }
    have hrest : (fresh { l with
        cursor := l.cursor.advanceBy g.chars.length, allowsKey := k }).cursor.rest = ys :=
      ha.fresh.rest
    obtain ⟨hok, hbad⟩ := hread k hk ha.fresh
    refine ⟨fun ⟨_, h'⟩ => ?_, fun hnot => ?_⟩
    · obtain ⟨b, d', toks', zs, htake, hb, hlt, hpost⟩ := hok h'
      refine ⟨b.fresh, reaches_of_step happroach (by rwa [hrest]) htake (dropStale_eq hb.optional)
        ?_, hpost⟩
      rw [hb.fresh.rest, h.rest, List.length_append]
      omega
    · obtain ⟨e, he⟩ := hbad fun h' => hnot ⟨htab, h'⟩
      exact fails_of_take happroach (by rwa [hrest]) he

theorem scans_token_of_take {g : Gap} {ys : List Char} {post : Lexer → Prop}
    (h : At l d toks (g.chars ++ ys)) (hys : EndsSpace ys) (hne : ys ≠ [])
    (htake : ∀ k,
      let a := { l with cursor := l.cursor.advanceBy g.chars.length, allowsKey := k : Lexer }.fresh
      At a d toks ys → ∃ b d' toks' zs, a.take = .ok b ∧ At b d' toks' zs ∧
        zs.length < ys.length ∧ post b.fresh) :
    Scans l ('\t' ∉ g.chars) post := by
  have hread : Scans l ('\t' ∉ g.chars ∧ True) post :=
    scans_token h hys hne fun k _ ha =>
      ⟨fun _ => htake k ha, fun hfalse => absurd trivial hfalse⟩
  exact hread.imp (and_iff_left trivial).symm fun _ => id

theorem dropCandidate_eq (h : ∀ e ∈ l.candidates, e.2.required = false) :
    l.dropCandidate = .ok { l with candidates := Entries.erase l.depth l.candidates } := by
  cases hf : Entries.find? l.depth l.candidates with
  | none =>
    have herase : Entries.erase l.depth l.candidates = l.candidates := by
      refine List.filter_eq_self.mpr fun e he => ?_
      have hkey := Entries.find?_eq_none_iff.mp hf
      simpa using fun heq => hkey (List.mem_map.mpr ⟨e, he, heq⟩)
    rw [dropCandidate, hf, herase]
  | some k =>
    have hk : k.required = false := h _ (Entries.mem_of_find? hf)
    simp only [dropCandidate, hf, hk, Bool.false_eq_true, if_false]

theorem optional_erase (h : ∀ e ∈ l.candidates, e.2.required = false) :
    ∀ e ∈ Entries.erase l.depth l.candidates, e.2.required = false :=
  fun e he => h e (List.mem_filter.mp he).1

/-- The candidate for a key at the cursor, outside of blocks. -/
def candidateHere (l : Lexer) : Candidate := ⟨l.lexemes.length, false, l.place⟩

theorem saveCandidate_eq (h : At l d toks cs) (hk : l.allowsKey = true) :
    l.saveCandidate = .ok { l with
      candidates := Entries.put l.depth l.candidateHere (Entries.erase l.depth l.candidates) } := by
  have hrequired : (!l.inFlow && l.indent == l.cursor.column) = false := by
    rw [h.indent]
    simp
  simp only [saveCandidate, hk, if_true, dropCandidate_eq h.optional, Except.map]
  rw [candidateHere, ← hrequired]
  rfl

theorem exists_saveCandidate (h : At l d toks cs) :
    ∃ candidates, l.saveCandidate = .ok { l with candidates } ∧
      At { l with candidates } d toks cs := by
  by_cases hk : l.allowsKey = true
  · refine ⟨_, saveCandidate_eq h hk, { h with optional := fun e he => ?_ }⟩
    rcases Entries.mem_put he with rfl | he
    · rfl
    · exact optional_erase h.optional e he
  · exact ⟨l.candidates, by rw [saveCandidate, if_neg hk], h⟩

/-- A token that ends at another place. -/
theorem At.emitTo (h : At l d toks cs) (t : Token) {c : Cursor} {ys : List Char}
    (hc : c.rest = ys) : At (l.emitTo t c) d (toks ++ [t]) ys :=
  { h with tokens := by simp [Lexer.emitTo, ← h.tokens], rest := hc }

theorem take_opening {x : Char} {ys : List Char} {t : Token} (h : At l d toks (x :: ys))
    (ht : (x = '[' ∧ t = .flowSequenceStart) ∨ (x = '\x7b' ∧ t = .flowMappingStart)) :
    ∃ b, l.take = .ok b ∧ At b (d + 1) (toks ++ [t]) ys ∧ b.allowsKey = true := by
  have htake : l.take = l.takeOpening t := by
    rcases ht with ⟨rfl, rfl⟩ | ⟨rfl, rfl⟩ <;>
      simp [take, peek_eq h.rest, atMark_eq_false h.rest]
  obtain ⟨candidates, hsave, hat⟩ := exists_saveCandidate h
  rw [htake, takeOpening, hsave]
  have hemit := hat.emitTo t (rest_advance h.rest)
  exact ⟨_, rfl, { hemit with depth := by rw [← h.depth] }, rfl⟩

theorem take_closing {x : Char} {ys : List Char} {t : Token} (h : At l (d + 1) toks (x :: ys))
    (ht : (x = ']' ∧ t = .flowSequenceEnd) ∨ (x = '\x7d' ∧ t = .flowMappingEnd)) :
    ∃ b, l.take = .ok b ∧ At b d (toks ++ [t]) ys := by
  have htake : l.take = l.takeClosing t := by
    rcases ht with ⟨rfl, rfl⟩ | ⟨rfl, rfl⟩ <;>
      simp [take, peek_eq h.rest, atMark_eq_false h.rest]
  have hat : At { l with candidates := Entries.erase l.depth l.candidates } (d + 1) toks
      (x :: ys) :=
    { h with optional := optional_erase h.optional }
  rw [htake, takeClosing, dropCandidate_eq h.optional]
  have hemit := hat.emitTo t (rest_advance h.rest)
  exact ⟨_, rfl, { hemit with depth := by show l.depth - 1 = d; rw [h.depth]; rfl }⟩

theorem take_comma {ys : List Char} (h : At l d toks (',' :: ys)) :
    ∃ b, l.take = .ok b ∧ At b d (toks ++ [.flowComma]) ys ∧ b.allowsKey = true := by
  have htake : l.take = l.takeComma := by simp [take, peek_eq h.rest, atMark_eq_false h.rest]
  have hat : At { l with candidates := Entries.erase l.depth l.candidates } d toks (',' :: ys) :=
    { h with optional := optional_erase h.optional }
  rw [htake, takeComma, dropCandidate_eq h.optional]
  have hemit := hat.emitTo .flowComma (rest_advance h.rest)
  exact ⟨_, rfl, { hemit with }, rfl⟩

/-- A string is a token exactly if there is no document mark in it. -/
theorem take_string {ls : Letters} {ys : List Char} (h : At l d toks (ls.quoted ++ ys)) :
    (¬ HasMark ls.chars → ∀ candidates, l.saveCandidate = .ok { l with candidates } →
      l.take = .ok (({ l with candidates : Lexer }.emitTo (.scalar ls.folded false)
        (l.cursor.advanceBy ls.quoted.length)).allowKey false)) ∧
    (HasMark ls.chars → ∃ e, l.take = .error e) := by
  have hrest : l.cursor.rest = '"' :: (ls.chars ++ '"' :: ys) := by
    rw [h.rest, Letters.quoted]
    simp
  have htake : l.take = l.takeProperty (readQuoted .double) := by
    simp [take, peek_eq hrest, atMark_eq_false hrest]
  have hfuel : ls.chars.length < l.cursor.rest.length + 1 := by
    rw [hrest]
    simp
    omega
  have hread := readsQuoted_letters l.place ls (rest_advance hrest) hfuel
  refine ⟨fun hnot candidates hsave => ?_, fun hmark => ?_⟩
  · have hcursor : l.cursor.advance.advanceBy (ls.chars.length + 1) =
        l.cursor.advanceBy ls.quoted.length := by
      rw [show ls.quoted.length = ls.chars.length + 1 + 1 by simp [Letters.quoted]]
      rfl
    have hquoted : readQuoted .double l.cursor =
        .ok (.scalar ls.folded false, l.cursor.advanceBy ls.quoted.length) := by
      rw [readQuoted, show l.cursor.toMark = l.place from rfl, hread.1 hnot, hcursor]
      rfl
    rw [htake, takeProperty, hsave]
    show (readQuoted .double l.cursor >>= _) = _
    rw [hquoted]
    rfl
  · obtain ⟨candidates, hsave, -⟩ := exists_saveCandidate h
    obtain ⟨e, he⟩ := hread.2 hmark
    have hquoted : readQuoted .double l.cursor = .error e := by
      rw [readQuoted, show l.cursor.toMark = l.place from rfl, he]
      rfl
    refine ⟨e, ?_⟩
    rw [htake, takeProperty, hsave]
    show (readQuoted .double l.cursor >>= _) = _
    rw [hquoted]
    rfl

/-! ## Bare values -/

/-- The characters of bare values. -/
def bareChars : List Char := "0123456789+-.eEnulltruefalseNaNInfinity".toList

theorem mem_bareChars (b : Bare) {x : Char} (hx : x ∈ b.chars) : x ∈ bareChars := by
  cases b with
  | number n =>
    have hsub : numberChars ⊆ bareChars := by decide
    exact hsub (n.mem_numberChars hx)
  | word w hw =>
    have hsub : ∀ v ∈ words.map Prod.fst, v ⊆ bareChars := by decide
    exact hsub w.1 (List.mem_map_of_mem hw) hx

/-- What ends a bare value in a flow collection. -/
def IsCloser (y : Char) : Prop := y = ',' ∨ y = ']' ∨ y = '\x7d'

theorem endsPlain_of_closer {y next : Char} (h : separates y = true ∨ IsCloser y) :
    endsPlain true y next = true := by
  rcases h with h | rfl | rfl | rfl
  · simp [endsPlain, h]
  · simp [endsPlain]
  · simp [endsPlain]
  · simp [endsPlain]

theorem plainRun_eq {xs : List Char} (hxs : ∀ x ∈ xs, x ∈ bareChars) {y : Char} {ys : List Char}
    (hy : separates y = true ∨ IsCloser y) : plainRun true (xs ++ y :: ys) = xs := by
  have hgoes : ∀ x ∈ bareChars, separates x = false ∧ x ≠ ':' ∧
      [',', '?', '[', ']', '\x7b', '\x7d'].contains x = false :=
    List.all_iff_forall_prop.mp (by decide)
  induction xs with
  | nil => simp only [List.nil_append, plainRun, endsPlain_of_closer hy, if_true]
  | cons x xs ih =>
    obtain ⟨hx, hxs⟩ := List.forall_mem_cons.mp hxs
    obtain ⟨hsep, hcolon, hflow⟩ := hgoes x hx
    have hends : endsPlain true x ((xs ++ y :: ys).headD endMark) = false := by
      simp only [endsPlain, hsep, hflow]
      simp [hcolon]
    simp only [List.cons_append, plainRun, hends, Bool.false_eq_true, if_false, ih hxs]

theorem atDocumentMark_eq_false {c : Cursor} (h : ∀ y ∈ c.rest.head?, y ≠ '-' ∧ y ≠ '.') :
    c.atDocumentMark = false := by
  cases hc : c.rest with
  | nil => simp [atDocumentMark, atMark, hc]
  | cons y ys =>
    have hy := h y (by rw [hc]; rfl)
    rw [atDocumentMark, atMark_eq_false hc hy.1, atMark_eq_false hc hy.2]
    rfl

/-- What ends the white space behind a bare value. -/
structure EndsGap (ys : List Char) : Prop where
  space : EndsSpace ys
  mark : ∀ y ∈ ys.head?, y ≠ '-' ∧ y ≠ '.'

theorem head?_append_foldable {gap ys : List Char} (hgap : ∀ x ∈ gap, IsFoldable x)
    (hys : EndsGap ys) : ∀ y ∈ (gap ++ ys).head?, y ≠ '-' ∧ y ≠ '.' := by
  cases gap with
  | nil => exact hys.mark
  | cons x gap =>
    rintro y ⟨⟩
    have hsep := (hgap x List.mem_cons_self).separates
    constructor <;> rintro rfl <;> exact absurd hsep (by decide)

theorem takeBreak?_of_endsGap {c : Cursor} {ys : List Char} (hc : c.rest = ys)
    (hys : EndsGap ys) : c.takeBreak? = none := by
  cases ys with
  | nil => simp [takeBreak?, peek, hc, isBreak, endMark]
  | cons y ys => simp [takeBreak?, peek_eq hc, (hys.space y rfl).2.1]

theorem exists_plainBreaks (done : List Char) {gap ys : List Char} {fuel : Nat} {c : Cursor}
    (hc : c.rest = gap ++ ys) (hgap : ∀ x ∈ gap, IsFoldable x) (hys : EndsGap ys)
    (hfuel : gap.length ≤ fuel) :
    ∃ breaks, plainBreaks fuel done c = (some breaks, c.advanceBy gap.length) := by
  induction gap generalizing fuel done c with
  | nil =>
    refine ⟨done.reverse, ?_⟩
    cases fuel with
    | zero => rfl
    | succ fuel =>
      have hspace : (c.peek == ' ') = false := by
        cases ys with
        | nil => simp [peek, hc, endMark]
        | cons y ys => simpa [peek_eq hc] using (hys.space y rfl).1
      simp only [plainBreaks, hspace, takeBreak?_of_endsGap hc hys, Bool.false_eq_true, if_false]
      rfl
  | cons x gap ih =>
    obtain ⟨hx, htail⟩ := List.forall_mem_cons.mp hgap
    obtain ⟨fuel, rfl⟩ : ∃ k, fuel = k + 1 := ⟨fuel - 1, by simp at hfuel; omega⟩
    have hnext := rest_advance hc
    have hfuel' : gap.length ≤ fuel := by simpa using hfuel
    rcases hx with rfl | hx
    · obtain ⟨breaks, hbreaks⟩ := ih done hnext htail hfuel'
      refine ⟨breaks, ?_⟩
      simp only [plainBreaks, peek_eq hc, beq_self_eq_true, if_true, hbreaks]
      rfl
    · obtain ⟨breaks, hbreaks⟩ := ih (breakText x :: done) hnext htail hfuel'
      have hspace : (x == ' ') = false := by
        simpa using fun h => absurd (h ▸ hx) (by decide)
      have hmark : c.advance.atDocumentMark = false :=
        atDocumentMark_eq_false (by rw [hnext]; exact head?_append_foldable htail hys)
      refine ⟨breaks, ?_⟩
      simp only [plainBreaks, peek_eq hc, hspace, takeBreak?_eq_some hx hc, hmark, hbreaks,
        Bool.false_eq_true, if_false]
      rfl

theorem exists_plainGap {gap ys : List Char} {c : Cursor} (hc : c.rest = gap ++ ys)
    (hgap : ∀ x ∈ gap, IsFoldable x) (hys : EndsGap ys) :
    ∃ text crosses, plainGap c = ⟨text, crosses, c.advanceBy gap.length⟩ := by
  rcases spaces_or_break hgap with hspaces | ⟨spaces, b, rest, rfl, hspaces, hb, hrest⟩
  · have hskip : c.skipSpaces = c.advanceBy gap.length :=
      skip_eq hc (fun x hx => by simp [hspaces x hx]) fun y hy => by
        simpa using (hys.space y hy).1
    refine ⟨c.run (· == ' '), false, ?_⟩
    simp only [plainGap, hskip, takeBreak?_of_endsGap (rest_advanceBy hc) hys]
  · rw [List.append_assoc, List.cons_append] at hc
    have hskip : c.skipSpaces = c.advanceBy spaces.length :=
      skip_eq hc (fun x hx => by simp [hspaces x hx]) fun y hy => by
        obtain rfl := Option.some.inj hy
        simpa using fun h => absurd (h ▸ hb) (by decide)
    have hbehind := rest_advanceBy hc
    have hnext := rest_advance hbehind
    have hmark : (c.advanceBy spaces.length).advance.atDocumentMark = false :=
      atDocumentMark_eq_false (by rw [hnext]; exact head?_append_foldable hrest hys)
    have hfuel : rest.length ≤ (c.advanceBy spaces.length).advance.rest.length := by
      rw [hnext]
      simp
    obtain ⟨breaks, hbreaks⟩ := exists_plainBreaks [] hnext hrest hys hfuel
    refine ⟨folded (breakText b) breaks, true, ?_⟩
    simp only [plainGap, hskip, takeBreak?_eq_some hb hbehind, hmark, hbreaks,
      Bool.false_eq_true, if_false, List.length_append, List.length_cons, advanceBy_add, advanceBy]

/-- A bare value up to its end, which the white space behind it does not put off. -/
theorem exists_scanPlain {b : Bare} {before : List Char} {after : Gap} {y : Char} {ys : List Char}
    {c : Cursor} (hc : c.rest = b.chars ++ (before ++ (after.chars ++ y :: ys)))
    (hbefore : ∀ x ∈ before, IsFoldable x) (hafter : ∀ x ∈ after.chars.head?, x = '\t')
    (hy : IsCloser y) (indent : Int) (fuel : Nat) :
    ∃ crosses, scanPlain true indent (fuel + 1) c =
      ⟨b.chars, crosses, (c.advanceBy b.chars.length).advanceBy before.length⟩ := by
  have hends : ∃ z zs, after.chars ++ y :: ys = z :: zs ∧ (z = '\t' ∨ IsCloser z) := by
    cases ha : after.chars with
    | nil => exact ⟨y, ys, rfl, .inr hy⟩
    | cons x rest => exact ⟨x, rest ++ y :: ys, rfl, .inl (hafter x (by rw [ha]; rfl))⟩
  obtain ⟨z, zs, hz, hzends⟩ := hends
  have hstops : separates z = true ∨ IsCloser z := hzends.imp_left fun h : z = '\t' => h ▸ rfl
  rw [hz] at hc
  have hgap : EndsGap (z :: zs) := by
    constructor <;> rintro x ⟨⟩ <;> rcases hzends with rfl | rfl | rfl | rfl <;> decide
  have hpart : plainRun true c.rest = b.chars := by
    rw [hc]
    cases before with
    | nil => exact plainRun_eq (fun x hx => mem_bareChars b hx) hstops
    | cons x before =>
      exact plainRun_eq (fun x hx => mem_bareChars b hx)
        (.inl (hbefore x List.mem_cons_self).separates)
  obtain ⟨text, crosses, hplain⟩ := exists_plainGap (rest_advanceBy hc) hbefore hgap
  have hlast : plainRun true ((c.advanceBy b.chars.length).advanceBy before.length).rest = [] := by
    rw [rest_advanceBy (rest_advanceBy hc)]
    exact plainRun_eq (List.forall_mem_nil _) hstops
  refine ⟨crosses, ?_⟩
  simp only [scanPlain, hpart, hplain, hlast, List.isEmpty_nil, Bool.or_true, if_true]

/-- The characters with which bare values begin. -/
def bareHeads : List Char := "0123456789-ntfNI".toList

theorem exists_bare_head (b : Bare) : ∃ x xs, b.chars = x :: xs ∧ x ∈ bareHeads ∧
    (x = '-' → ∃ z zs, xs = z :: zs ∧ z ≠ '-' ∧ separates z = false) := by
  have hdigit {x : Char} (hx : x.isDigit = true) :
      x ∈ bareHeads ∧ x ≠ '-' ∧ separates x = false :=
    forall_isDigit (p := fun x => x ∈ bareHeads ∧ x ≠ '-' ∧ separates x = false) (by decide) hx
  cases b with
  | number n =>
    obtain ⟨d, ds, hds, hd⟩ := n.exists_unsigned_eq_cons
    obtain ⟨hmem, hne, hsep⟩ := hdigit hd
    simp only [Bare.chars, Numeral.chars, Numeral.sign, hds]
    split
    · exact ⟨'-', d :: ds, rfl, by decide, fun _ => ⟨d, ds, rfl, hne, hsep⟩⟩
    · exact ⟨d, ds, rfl, hmem, fun heq => absurd heq hne⟩
  | word w hw =>
    have hwords : ∀ v ∈ words.map Prod.fst, v ≠ [] ∧ v.headD ' ' ∈ bareHeads ∧
        (v.headD ' ' = '-' → v = "-Infinity".toList) := by decide
    obtain ⟨hne, hhead, hminus⟩ := hwords w.1 (List.mem_map_of_mem hw)
    obtain ⟨x, xs, hx⟩ := List.exists_cons_of_ne_nil hne
    rw [hx, List.headD_cons] at hhead hminus
    refine ⟨x, xs, hx, hhead, fun heq => ?_⟩
    have hinf : x :: xs = "-Infinity".toList := hminus heq
    exact ⟨'I', "nfinity".toList, (List.cons.inj hinf).2, by decide, by decide⟩

theorem take_eq_takePlain {b : Bare} {ys : List Char} (h : l.cursor.rest = b.chars ++ ys) :
    l.take = l.takePlain := by
  obtain ⟨x, xs, hx, hhead, hminus⟩ := exists_bare_head b
  rw [hx, List.cons_append] at h
  have hdot : x ≠ '.' := by
    rintro rfl
    exact absurd hhead (by decide)
  by_cases hdash : x = '-'
  · obtain ⟨z, zs, hxs, hz, hsep⟩ := hminus hdash
    subst hdash
    rw [hxs, List.cons_append] at h
    have hmark : l.cursor.atMark '-' = false := by simp [atMark, h, hz]
    have hnext : l.cursor.peekAt 1 = z := by simp [peekAt, h]
    simp [take, peek_eq h, hmark, atMark_eq_false h hdot, standsAlone, startsPlain, hnext, hsep]
  · have hplain : ∀ x ∈ bareHeads, x ≠ '-' →
        (x ≠ '%' ∧ x ≠ '[' ∧ x ≠ '\x7b' ∧ x ≠ ']' ∧ x ≠ '\x7d' ∧ x ≠ ',' ∧ x ≠ '?' ∧ x ≠ ':' ∧
          x ≠ '*' ∧ x ≠ '&' ∧ x ≠ '!' ∧ x ≠ '|' ∧ x ≠ '>' ∧ x ≠ '\'' ∧ x ≠ '"') ∧
          indicators.contains x = false ∧ separates x = false :=
      List.all_iff_forall_prop.mp (by decide)
    obtain ⟨hne, hind, hsep⟩ := hplain x hhead hdash
    have hstarts : l.startsPlain = true := by
      simp only [startsPlain, peek_eq h, hind, hsep]
      rfl
    simp [take, peek_eq h, atMark_eq_false h hdash, atMark_eq_false h hdot, hne, hdash, hstarts]

/-- A bare value is a plain scalar, whose token may take white space behind it. -/
theorem take_bare {b : Bare} {after : Gap} {y : Char} {ys : List Char} (hd : 0 < d)
    (hy : IsCloser y) (h : At l d toks (b.chars ++ (after.chars ++ y :: ys))) :
    ∃ (l' : Lexer) (after' : Gap), l.take = .ok l' ∧
      At l' d (toks ++ [.scalar (String.ofList b.chars) true]) (after'.chars ++ y :: ys) ∧
      ('\t' ∈ after'.chars ↔ '\t' ∈ after.chars) ∧
      (after'.chars ++ y :: ys).length < (b.chars ++ (after.chars ++ y :: ys)).length := by
  obtain ⟨before, after', hsplit, hbefore, hhead, htab⟩ := exists_gap_split after
  rw [hsplit, List.append_assoc] at h
  obtain ⟨candidates, hsave, hat⟩ := exists_saveCandidate h
  obtain ⟨crosses, hscan⟩ := exists_scanPlain h.rest hbefore hhead hy (l.indent + 1)
    l.cursor.rest.length
  have hflow : l.inFlow = true := by
    simp [inFlow, h.depth]
    omega
  have hemit := hat.emitTo (.scalar (String.ofList b.chars) true)
    (rest_advanceBy (rest_advanceBy h.rest))
  have htake : l.take = .ok (({ l with candidates : Lexer }.emitTo
      (.scalar (String.ofList b.chars) true)
      ((l.cursor.advanceBy b.chars.length).advanceBy before.length)).allowKey crosses) := by
    rw [take_eq_takePlain h.rest, takePlain, hsave]
    rw [← hflow] at hscan
    show Except.ok (({ l with candidates : Lexer }.emitTo
      (.scalar (String.ofList
        (scanPlain l.inFlow (l.indent + 1) (l.cursor.rest.length + 1) l.cursor).text) true)
      (scanPlain l.inFlow (l.indent + 1) (l.cursor.rest.length + 1) l.cursor).cursor).allowKey
        (scanPlain l.inFlow (l.indent + 1) (l.cursor.rest.length + 1) l.cursor).crosses) = _
    rw [hscan]
  refine ⟨_, after', htake, { hemit with }, htab, ?_⟩
  obtain ⟨x, xs, hx, -⟩ := exists_bare_head b
  rw [hsplit, hx]
  simp
  omega

end Lexer

end Yaml

end RemoteBindings
