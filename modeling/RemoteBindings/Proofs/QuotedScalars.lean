import Mathlib.Data.List.TakeWhile
import RemoteBindings.Proofs.JsonGrammar
import RemoteBindings.Yaml.FlowScalar

/-!
# JSON strings as double-quoted scalars

A double-quoted scalar reads the letters of a JSON string as JSON does, with two exceptions: the
codes of two surrogates stand for two characters, and spaces and line breaks between two other
characters are folded (`Letters.folded`; a line feed is no letter, but three other line breaks are).
The scalar ends with its quotes exactly if behind none of these breaks a document mark stands
(`readsQuoted_letters`).
-/

namespace RemoteBindings

/-! ## Cursors -/

namespace Yaml.Cursor

variable {c : Cursor}

theorem advanceBy_add (m n : Nat) (c : Cursor) :
    advanceBy (m + n) c = advanceBy n (advanceBy m c) := by
  induction m generalizing c with
  | zero => rw [Nat.zero_add, advanceBy]
  | succ m ih => rw [Nat.succ_add, advanceBy, advanceBy, ih]

/-- The cursor behind some characters that come next: their number and their line breaks count. -/
theorem advanceBy_of_rest {xs ys : List Char} (h : c.rest = xs ++ ys) :
    (c.advanceBy xs.length).rest = ys ∧ (c.advanceBy xs.length).index = c.index + xs.length ∧
      (c.advanceBy xs.length).line = c.line + xs.countP isBreak := by
  induction xs generalizing c with
  | nil => exact ⟨h, rfl, rfl⟩
  | cons x xs ih =>
    have hstep : c.advance = c.behind x (xs ++ ys) := by rw [advance, h, List.cons_append]
    have hbehind : c.advance.rest = xs ++ ys ∧ c.advance.index = c.index + 1 ∧
        c.advance.line = c.line + [x].countP isBreak := by
      rw [hstep, behind]
      by_cases hx : isBreak x = true <;> simp [hx]
    obtain ⟨hrest, hindex, hline⟩ := ih hbehind.1
    refine ⟨hrest, ?_, ?_⟩
    · rw [List.length_cons, advanceBy, hindex, hbehind.2.1]
      omega
    · rw [List.length_cons, advanceBy, hline, hbehind.2.2, ← List.singleton_append (l := xs),
        List.countP_append]
      omega

theorem rest_advanceBy {xs ys : List Char} (h : c.rest = xs ++ ys) :
    (c.advanceBy xs.length).rest = ys := (advanceBy_of_rest h).1

theorem rest_advance {x : Char} {ys : List Char} (h : c.rest = x :: ys) : c.advance.rest = ys :=
  rest_advanceBy (show c.rest = [x] ++ ys from h)

theorem peek_eq {x : Char} {ys : List Char} (h : c.rest = x :: ys) : c.peek = x := by
  rw [peek, h, List.headD_cons]

theorem run_eq {p : Char → Bool} {xs ys : List Char} (h : c.rest = xs ++ ys)
    (hxs : ∀ x ∈ xs, p x = true) (hys : ∀ y ∈ ys.head?, p y = false) : c.run p = xs := by
  rw [run, h, List.takeWhile_append_of_pos hxs]
  cases ys with
  | nil => simp
  | cons y ys => simp [hys y rfl]

theorem skip_eq {p : Char → Bool} {xs ys : List Char} (h : c.rest = xs ++ ys)
    (hxs : ∀ x ∈ xs, p x = true) (hys : ∀ y ∈ ys.head?, p y = false) :
    c.skip p = c.advanceBy xs.length := by
  rw [skip, run_eq h hxs hys]

end Yaml.Cursor

/-! ## Letters -/

namespace Json

open Text (LoneSurrogate)
open Yaml (isBreak separates folded)

/-- The text for spaces and line breaks that stand together. -/
def gapText (gap : List Char) : List Char :=
  match (gap.filter isBreak).map Yaml.Cursor.breakText with
  | [] => gap
  | first :: breaks => folded first breaks

/-- What letters stand for in a double-quoted scalar, behind spaces and line breaks. -/
def Letters.foldedFrom (gap : List Char) : Letters → List Char
  | [] => gapText gap
  | .raw c _ :: ls =>
    if separates c then foldedFrom (gap ++ [c]) ls else gapText gap ++ c :: foldedFrom [] ls
  | .pair .. :: ls =>
    gapText gap ++ LoneSurrogate.standIn :: LoneSurrogate.standIn :: foldedFrom [] ls
  | l :: ls => gapText gap ++ l.char :: foldedFrom [] ls

/-- What the letters of a string stand for in a double-quoted scalar. -/
def Letters.folded (ls : Letters) : String := String.ofList (ls.foldedFrom [])

/-- Whether some characters begin with a mark of three equal characters that ends or begins a
document. -/
def BeginsMark (cs : List Char) : Prop :=
  ∃ m d, (m = '-' ∨ m = '.') ∧ separates d = true ∧ [m, m, m, d] <+: cs

/-- Whether such a mark stands at the start of a line within some characters. -/
def HasMark (cs : List Char) : Prop :=
  ∃ before b after, cs = before ++ b :: after ∧ isBreak b = true ∧ BeginsMark after

theorem hasMark_cons {c : Char} {cs : List Char} :
    HasMark (c :: cs) ↔ (isBreak c = true ∧ BeginsMark cs) ∨ HasMark cs := by
  constructor
  · rintro ⟨before, b, after, heq, hb, hmark⟩
    cases before with
    | nil =>
      obtain ⟨rfl, rfl⟩ := List.cons.inj heq
      exact .inl ⟨hb, hmark⟩
    | cons x before => exact .inr ⟨before, b, after, (List.cons.inj heq).2, hb, hmark⟩
  · rintro (⟨hb, hmark⟩ | ⟨before, b, after, rfl, hb, hmark⟩)
    · exact ⟨[], c, cs, rfl, hb, hmark⟩
    · exact ⟨c :: before, b, after, rfl, hb, hmark⟩

theorem hasMark_append_of_noBreak {xs cs : List Char} (hxs : ∀ x ∈ xs, isBreak x = false) :
    HasMark (xs ++ cs) ↔ HasMark cs := by
  induction xs with
  | nil => rfl
  | cons x xs ih =>
    obtain ⟨hx, hxs⟩ := List.forall_mem_cons.mp hxs
    rw [List.cons_append, hasMark_cons, ih hxs]
    simp [hx]

theorem not_beginsMark_of_separates {c : Char} {cs : List Char} (hc : separates c = true) :
    ¬ BeginsMark (c :: cs) := by
  rintro ⟨m, d, hm, -, hpre⟩
  rw [← (List.cons_prefix_cons.mp hpre).1] at hc
  rcases hm with rfl | rfl <;> exact absurd hc (by decide)

/-- Behind spaces and line breaks a mark counts if the last of them is a break. -/
theorem hasMark_append_of_separates {gap cs : List Char} (hgap : ∀ x ∈ gap, separates x = true) :
    HasMark (gap ++ cs) ↔
      ((∃ b ∈ gap.getLast?, isBreak b = true) ∧ BeginsMark cs) ∨ HasMark cs := by
  induction gap with
  | nil => simp
  | cons x gap ih =>
    obtain ⟨hx, hgap⟩ := List.forall_mem_cons.mp hgap
    rw [List.cons_append, hasMark_cons, ih hgap]
    cases gap with
    | nil => simp
    | cons y gap =>
      have hy : ¬ BeginsMark (y :: (gap ++ cs)) :=
        not_beginsMark_of_separates (hgap y List.mem_cons_self)
      simp [hy]

/-! ## Spaces and line breaks in quotes -/

end Json

namespace Yaml

open Json Cursor
open Text (LoneSurrogate)

variable {c : Cursor} {gap cs more : List Char}

/-- Within quotes a mark counts only up to the closing quote. -/
theorem atDocumentMark_iff (h : c.rest = cs ++ '"' :: more) :
    c.atDocumentMark = true ↔ BeginsMark cs := by
  have hmark (m : Char) (hm : m = '-' ∨ m = '.') :
      c.atMark m = true ↔ ∃ d, separates d = true ∧ [m, m, m, d] <+: cs := by
    have hq : '"' ≠ m := by rcases hm with rfl | rfl <;> decide
    have hsep : separates '"' = false := by decide
    unfold atMark peekAt
    rw [h]
    match cs with
    | [] => simp [hq]
    | [x] => simp [hq]
    | [x, y] => simp [hq]
    | [x, y, z] => simp [hsep]
    | x :: y :: z :: d :: cs =>
      simp only [List.cons_append, List.take_succ_cons, List.take_zero, List.drop_succ_cons,
        List.drop_zero, List.headD_cons, Bool.and_eq_true, beq_iff_eq, List.cons.injEq, and_true,
        List.cons_prefix_cons, List.nil_prefix]
      constructor
      · rintro ⟨⟨rfl, rfl, rfl⟩, hd⟩
        exact ⟨d, hd, rfl, rfl, rfl, rfl⟩
      · rintro ⟨_, hd, rfl, rfl, rfl, rfl⟩
        exact ⟨⟨rfl, rfl, rfl⟩, hd⟩
  rw [atDocumentMark, Bool.or_eq_true, hmark '-' (.inl rfl), hmark '.' (.inr rfl)]
  constructor
  · rintro (⟨d, hd, hpre⟩ | ⟨d, hd, hpre⟩)
    · exact ⟨'-', d, .inl rfl, hd, hpre⟩
    · exact ⟨'.', d, .inr rfl, hd, hpre⟩
  · rintro ⟨m, d, rfl | rfl, hd, hpre⟩
    · exact .inl ⟨d, hd, hpre⟩
    · exact .inr ⟨d, hd, hpre⟩

/-- A space or a line break. -/
def IsFoldable (x : Char) : Prop := x = ' ' ∨ isBreak x = true

theorem IsFoldable.separates {x : Char} (h : IsFoldable x) : separates x = true := by
  rcases h with rfl | h
  · rfl
  · simp [Yaml.separates, isLineEnd, h]

/-- Spaces and line breaks are spaces alone, or there is a first break. -/
theorem spaces_or_break (hgap : ∀ x ∈ gap, IsFoldable x) :
    (∀ x ∈ gap, x = ' ') ∨ ∃ spaces b rest, gap = spaces ++ b :: rest ∧
      (∀ x ∈ spaces, x = ' ') ∧ isBreak b = true ∧ ∀ x ∈ rest, IsFoldable x := by
  induction gap with
  | nil => exact .inl (by simp)
  | cons x gap ih =>
    obtain ⟨hx, htail⟩ := List.forall_mem_cons.mp hgap
    rcases hx with rfl | hx
    · rcases ih htail with h | ⟨spaces, b, rest, rfl, hspaces, hb, hrest⟩
      · exact .inl (List.forall_mem_cons.mpr ⟨rfl, h⟩)
      · exact .inr ⟨' ' :: spaces, b, rest, rfl, List.forall_mem_cons.mpr ⟨rfl, hspaces⟩, hb, hrest⟩
    · exact .inr ⟨[], x, gap, rfl, by simp, hx, htail⟩

theorem isGap_of_space {spaces : List Char} (h : ∀ x ∈ spaces, x = ' ') :
    ∀ x ∈ spaces, isGap x = true := fun x hx => h x hx ▸ rfl

theorem filter_isBreak_spaces {spaces : List Char} (h : ∀ x ∈ spaces, x = ' ') :
    spaces.filter isBreak = [] := List.filter_eq_nil_iff.mpr fun x hx => by simp [h x hx, isBreak]

theorem isGap_of_isBreak {b : Char} (hb : isBreak b = true) : isGap b = false := by
  simp only [isBreak, Bool.or_eq_true, beq_iff_eq] at hb
  rcases hb with ((rfl | rfl) | rfl) | rfl <;> rfl

/-- What comes behind spaces and line breaks in quotes: something else, or the closing quote. -/
structure Behind (cs more : List Char) (ys : List Char) : Prop where
  eq : ys = cs ++ '"' :: more
  head : ∀ y ∈ cs.head?, separates y = false

namespace Behind

variable {ys : List Char}

theorem head?_separates (h : Behind cs more ys) : ∀ y ∈ ys.head?, separates y = false := by
  rw [h.eq]
  cases cs with
  | nil => rintro y ⟨⟩; rfl
  | cons x cs => exact h.head

theorem head?_isGap (h : Behind cs more ys) : ∀ y ∈ ys.head?, isGap y = false := fun y hy => by
  have := h.head?_separates y hy
  simp only [separates, Bool.or_eq_false_iff] at this
  exact this.1

theorem ne_nil (h : Behind cs more ys) : ys ≠ [] := by
  rw [h.eq]
  simp

end Behind

theorem takeBreak?_eq_none {ys : List Char} (h : ∀ y ∈ ys.head?, separates y = false)
    (hne : ys ≠ []) (hc : c.rest = ys) : c.takeBreak? = none := by
  obtain ⟨y, ys, rfl⟩ := List.exists_cons_of_ne_nil hne
  have hy := h y rfl
  simp only [separates, isLineEnd, Bool.or_eq_false_iff] at hy
  rw [takeBreak?, peek_eq hc, hy.2.1]
  rfl

theorem takeBreak?_eq_some {b : Char} {ys : List Char} (hb : isBreak b = true)
    (hc : c.rest = b :: ys) : c.takeBreak? = some (breakText b, c.advance) := by
  rw [takeBreak?, peek_eq hc, if_pos hb]

/-- In white space there is no mark of a document. -/
theorem atDocumentMark_gap_iff {ys : List Char} (hc : c.rest = gap ++ ys) (hy : Behind cs more ys)
    (hgap : ∀ x ∈ gap, IsFoldable x) :
    c.atDocumentMark = true ↔ gap = [] ∧ BeginsMark cs := by
  cases gap with
  | nil =>
    rw [atDocumentMark_iff (hc.trans hy.eq)]
    simp
  | cons x gap =>
    have hx := (hgap x List.mem_cons_self).separates
    rw [hy.eq, ← List.append_assoc] at hc
    rw [atDocumentMark_iff hc]
    simpa using not_beginsMark_of_separates hx

/-- Breaks and the spaces between them are passed, unless a mark stands behind a break. -/
theorem quotedBreaks_eq (start : Mark) (fuel : Nat) {ys : List Char} (hc : c.rest = gap ++ ys)
    (hy : Behind cs more ys) (hgap : ∀ x ∈ gap, IsFoldable x) (hfuel : gap.length < fuel) :
    let bad := (∀ b ∈ gap.getLast?, isBreak b = true) ∧ BeginsMark cs
    (¬ bad → quotedBreaks start fuel c =
      .ok ((gap.filter isBreak).map breakText, c.advanceBy gap.length)) ∧
    (bad → ∃ e, quotedBreaks start fuel c = .error e) := by
  induction fuel generalizing c gap with
  | zero => omega
  | succ fuel ih =>
    have hmark := atDocumentMark_gap_iff hc hy hgap
    rw [quotedBreaks]
    by_cases hnow : gap = [] ∧ BeginsMark cs
    · rw [if_pos (hmark.mpr hnow)]
      exact ⟨fun hbad => absurd ⟨by simp [hnow.1], hnow.2⟩ hbad, fun _ => ⟨_, rfl⟩⟩
    rw [if_neg (mt hmark.mp hnow)]
    rcases spaces_or_break hgap with hspaces | ⟨spaces, b, rest, rfl, hspaces, hb, hrest⟩
    · have hskip := skip_eq hc (isGap_of_space hspaces) hy.head?_isGap
      have hnone := takeBreak?_eq_none hy.head?_separates hy.ne_nil (rest_advanceBy hc)
      simp only [hskip, hnone, filter_isBreak_spaces hspaces]
      refine ⟨fun _ => rfl, fun ⟨hlast, hbegins⟩ => ?_⟩
      cases hl : gap.getLast? with
      | none => exact absurd ⟨List.getLast?_eq_none_iff.mp hl, hbegins⟩ hnow
      | some x =>
        have hx := hlast x hl
        rw [hspaces x (List.mem_of_getLast? hl)] at hx
        exact absurd hx (by decide)
    · rw [List.append_assoc, List.cons_append] at hc
      have hskip := skip_eq hc (isGap_of_space hspaces)
        (by simp [isGap_of_isBreak hb])
      have hsome := takeBreak?_eq_some hb (rest_advanceBy hc)
      have hnext := rest_advance (rest_advanceBy hc)
      have hlast : (∀ x ∈ (spaces ++ b :: rest).getLast?, isBreak x = true) ↔
          ∀ x ∈ rest.getLast?, isBreak x = true := by
        cases rest with
        | nil => simp [hb]
        | cons x rest => simp [List.getLast?_append]
      have hcursor : c.advanceBy (spaces ++ b :: rest).length =
          ((c.advanceBy spaces.length).advance).advanceBy rest.length := by
        rw [List.length_append, advanceBy_add, List.length_cons, advanceBy]
      have hfilter : ((spaces ++ b :: rest).filter isBreak).map breakText =
          breakText b :: (rest.filter isBreak).map breakText := by
        simp [filter_isBreak_spaces hspaces, hb]
      have ih := ih hnext hrest (by simp at hfuel; omega)
      simp only [hskip, hsome, hlast, hcursor, hfilter]
      refine ⟨fun hbad => by rw [ih.1 hbad]; rfl, fun hbad => ?_⟩
      obtain ⟨e, he⟩ := ih.2 hbad
      exact ⟨e, by rw [he]; rfl⟩

theorem gapText_of_spaces (h : ∀ x ∈ gap, x = ' ') : gapText gap = gap := by
  rw [gapText, filter_isBreak_spaces h]
  rfl

theorem quotedGap_eq (start : Mark) {ys : List Char} (hc : c.rest = gap ++ ys)
    (hy : Behind cs more ys) (hgap : ∀ x ∈ gap, IsFoldable x) :
    let bad := (∃ b ∈ gap.getLast?, isBreak b = true) ∧ BeginsMark cs
    (¬ bad → quotedGap start c = .ok (gapText gap, c.advanceBy gap.length)) ∧
    (bad → ∃ e, quotedGap start c = .error e) := by
  rcases spaces_or_break hgap with hspaces | ⟨spaces, b, rest, rfl, hspaces, hb, hrest⟩
  · have hskip := skip_eq hc (isGap_of_space hspaces) hy.head?_isGap
    have hrun := run_eq hc (isGap_of_space hspaces) hy.head?_isGap
    have hbehind := rest_advanceBy hc
    have hnone := takeBreak?_eq_none hy.head?_separates hy.ne_nil hbehind
    have hne : (c.advanceBy gap.length).rest.isEmpty = false := by
      rw [hbehind]
      simpa using hy.ne_nil
    simp only [quotedGap, hskip, hrun, hnone, hne, gapText_of_spaces hspaces]
    refine ⟨fun _ => rfl, fun ⟨⟨x, hx, hbreak⟩, _⟩ => ?_⟩
    rw [hspaces x (List.mem_of_getLast? hx)] at hbreak
    exact absurd hbreak (by decide)
  · rw [List.append_assoc, List.cons_append] at hc
    have hskip := skip_eq hc (isGap_of_space hspaces) (by simp [isGap_of_isBreak hb])
    have hsome := takeBreak?_eq_some hb (rest_advanceBy hc)
    have hnext := rest_advance (rest_advanceBy hc)
    have hlast : (∃ x ∈ (spaces ++ b :: rest).getLast?, isBreak x = true) ↔
        ∀ x ∈ rest.getLast?, isBreak x = true := by
      cases hl : rest.getLast? with
      | none => simp [List.getLast?_eq_none_iff.mp hl, hb]
      | some y => simp [List.getLast?_append, List.getLast?_cons, hl]
    have hcursor : c.advanceBy (spaces ++ b :: rest).length =
        ((c.advanceBy spaces.length).advance).advanceBy rest.length := by
      rw [List.length_append, advanceBy_add, List.length_cons, advanceBy]
    have htext : gapText (spaces ++ b :: rest) =
        folded (breakText b) ((rest.filter isBreak).map breakText) := by
      simp [gapText, filter_isBreak_spaces hspaces, hb]
    have hbreaks := quotedBreaks_eq start ((rest ++ ys).length + 1) hnext hy hrest
      (by simp only [List.length_append]; omega)
    simp only [quotedGap, hskip, hsome, hlast, hcursor, htext, hnext]
    refine ⟨fun hbad => by rw [hbreaks.1 hbad]; rfl, fun hbad => ?_⟩
    obtain ⟨e, he⟩ := hbreaks.2 hbad
    exact ⟨e, by rw [he]; rfl⟩

/-! ## Letters in quotes -/

theorem hexValue?_lt {x : Char} {n : Nat} (h : Text.hexValue? x = some n) :
    n < 16 ∧ 48 ≤ x.toNat ∧ x.toNat < 128 := by
  unfold Text.hexValue? at h
  split at h
  · next hd =>
    obtain ⟨hlow, hhigh⟩ := Char.isDigit_iff_toNat.mp hd
    have hlow : 48 ≤ x.toNat := hlow
    have hhigh : x.toNat ≤ 57 := hhigh
    obtain rfl := Option.some.inj h
    omega
  · split at h
    · next hx =>
      obtain ⟨hlow, hhigh⟩ : 97 ≤ x.toNat ∧ x.toNat ≤ 102 := hx
      obtain rfl := Option.some.inj h
      omega
    · split at h
      · next hx =>
        obtain ⟨hlow, hhigh⟩ : 65 ≤ x.toNat ∧ x.toNat ≤ 70 := hx
        obtain rfl := Option.some.inj h
        omega
      · cases h

theorem isBreak_eq_false {x : Char} (hlow : 32 ≤ x.toNat) (hhigh : x.toNat < 128) :
    isBreak x = false := by
  cases h : isBreak x with
  | false => rfl
  | true =>
    simp only [isBreak, Bool.or_eq_true, beq_iff_eq] at h
    rcases h with ((rfl | rfl) | rfl) | rfl <;> simp_all

theorem hexDigits_of_code (x : Code) : ∀ d ∈ x.digits, Text.isHexDigit d = true :=
  List.all_eq_true.mp x.hex

theorem unit_lt (x : Code) : x.unit < 65536 := by
  have hdigit : ∀ d ∈ x.digits, (Text.hexValue? d).getD 0 < 16 := by
    intro d hd
    obtain ⟨n, hn⟩ := Option.isSome_iff_exists.mp (hexDigits_of_code x d hd)
    rw [hn]
    exact (hexValue?_lt hn).1
  have ha := hdigit x.a (by simp [Code.digits])
  have hb := hdigit x.b (by simp [Code.digits])
  have hc := hdigit x.c (by simp [Code.digits])
  have hd := hdigit x.d (by simp [Code.digits])
  simp only [Code.unit, Code.digits, Text.digitsValue, List.foldl_cons, List.foldl_nil]
  omega

theorem characterOf_unit (x : Code) : characterOf x.unit = .ok (ofUnit x.unit) := by
  have hlt := unit_lt x
  have hsurrogate : (isHighSurrogate x.unit || isLowSurrogate x.unit) = true ↔
      0xD800 ≤ x.unit ∧ x.unit < 0xE000 := by
    simp [isHighSurrogate, isLowSurrogate]
    omega
  rw [characterOf, if_neg (by omega), if_neg (by omega), ofUnit]
  by_cases h : 0xD800 ≤ x.unit ∧ x.unit < 0xE000
  · rw [if_pos h, if_pos (hsurrogate.mpr h)]
  · rw [if_neg h, if_neg (mt hsurrogate.mp h)]

theorem scanEscape_code (start : Mark) (x : Code) (hc : c.rest = 'u' :: x.digits ++ cs) :
    scanEscape start c = .ok ([ofUnit x.unit], c.advanceBy 5) := by
  have hnext : c.advance.rest = x.digits ++ cs := rest_advance hc
  have hdigits : (c.advance.rest.take 4).takeWhile Text.isHexDigit = x.digits := by
    rw [hnext, List.take_append_of_le_length (by simp [Code.digits])]
    exact (List.takeWhile_eq_self_iff.mpr (hexDigits_of_code x))
  have hu : escaped? 'u' = none ∧ codeWidth? 'u' = some 4 := ⟨rfl, rfl⟩
  rw [scanEscape, peek_eq hc]
  simp only [hu, scanCode, hdigits]
  rw [if_pos (by rfl), show Text.digitsValue 16 x.digits = x.unit from rfl, characterOf_unit]
  rfl

/-- What stands for one character in a double-quoted scalar, spaces and breaks apart. -/
def Simple : Letter → Prop
  | .raw x _ => separates x = false
  | .escape .. | .code _ => True
  | .pair .. => False

theorem escaped?_eq {x y : Char} (h : Json.escaped? x = some y) : escaped? x = some y := by
  unfold Json.escaped? at h
  split at h <;> first | exact h | cases h

theorem quotedPart_letter (start : Mark) {l : Letter} (hl : Simple l)
    (hc : c.rest = l.chars ++ cs) :
    quotedPart start .double c = .ok (some [l.char], c.advanceBy l.chars.length) := by
  have hne : c.rest.isEmpty = false := by
    rw [hc]
    cases l <;> rfl
  cases l with
  | raw x hx =>
    have hpeek : c.peek = x := peek_eq hc
    have hsep : separates x = false := hl
    simp [quotedPart, hne, hpeek, Quote.mark, hx.1, hx.2.1, hsep, Letter.char, Letter.chars,
      advanceBy]
  | escape x y h =>
    have hpeek : c.peek = '\\' := peek_eq hc
    have hnext : c.advance.peek = x := peek_eq (rest_advance hc)
    have hscan : scanEscape start c.advance = .ok ([y], c.advance.advance) := by
      rw [scanEscape, hnext, escaped?_eq h]
    simp [quotedPart, hne, hpeek, Quote.mark, hscan, Letter.char, Letter.chars, advanceBy,
      Except.map]
  | code x =>
    have hpeek : c.peek = '\\' := peek_eq hc
    have hnext : c.advance.rest = 'u' :: x.digits ++ cs := rest_advance hc
    have hscan := scanEscape_code start x hnext
    simp [quotedPart, hne, hpeek, Quote.mark, hscan, Letter.char, Letter.chars, Code.chars,
      Code.digits, advanceBy, Except.map]
  | pair => exact hl.elim

theorem noBreak_of_simple {l : Letter} (hl : Simple l) : ∀ x ∈ l.chars, isBreak x = false := by
  have hcode (y : Code) : ∀ x ∈ y.chars, isBreak x = false := by
    intro x hx
    rcases List.mem_cons.mp hx with rfl | hx
    · rfl
    rcases List.mem_cons.mp hx with rfl | hx
    · rfl
    obtain ⟨n, hn⟩ := Option.isSome_iff_exists.mp (hexDigits_of_code y x hx)
    exact isBreak_eq_false (by have := hexValue?_lt hn; omega) (hexValue?_lt hn).2.2
  cases l with
  | raw x hx =>
    have hsep : separates x = false := hl
    simp only [separates, isLineEnd, Bool.or_eq_false_iff] at hsep
    simpa [Letter.chars] using hsep.2.1
  | escape x y h =>
    have hx : isBreak x = false := by
      unfold Json.escaped? at h
      split at h <;> first | rfl | cases h
    exact List.forall_mem_cons.mpr ⟨rfl, List.forall_mem_cons.mpr ⟨hx, by simp⟩⟩
  | code y => exact hcode y
  | pair => exact hl.elim

theorem isFoldable_of_raw {x : Char} (hx : x ≠ '"' ∧ x ≠ '\\' ∧ 0x20 ≤ x.toNat)
    (hsep : separates x = true) : IsFoldable x := by
  simp only [separates, isGap, isLineEnd, Bool.or_eq_true, beq_iff_eq] at hsep
  rcases hsep with (h | h) | h | h
  · exact .inl h
  · exact absurd (h ▸ hx.2.2) (by decide)
  · exact .inr h
  · exact absurd (h ▸ hx.2.2) (by decide)

/-- The spaces and breaks at the head of some letters, and the letters behind them. -/
theorem exists_gap_letters (ls : Letters) :
    ∃ (gap : List Char) (rest : Letters), ls.chars = gap ++ rest.chars ∧
      (∀ x ∈ gap, IsFoldable x) ∧ (∀ y ∈ rest.chars.head?, separates y = false) ∧
      ∀ acc, ls.foldedFrom acc = gapText (acc ++ gap) ++ rest.foldedFrom [] := by
  have hstop {l : Letter} {ls : Letters} (hq : ∀ y ∈ l.chars.head?, separates y = false)
      (hfold : ∀ acc, Letters.foldedFrom acc (l :: ls) =
        gapText acc ++ Letters.foldedFrom [] (l :: ls)) :
      ∃ (gap : List Char) (rest : Letters), Letters.chars (l :: ls) = gap ++ rest.chars ∧
        (∀ x ∈ gap, IsFoldable x) ∧ (∀ y ∈ rest.chars.head?, separates y = false) ∧
        ∀ acc, Letters.foldedFrom acc (l :: ls) =
          gapText (acc ++ gap) ++ rest.foldedFrom [] := by
    refine ⟨[], l :: ls, rfl, by simp, ?_, fun acc => by rw [List.append_nil]; exact hfold acc⟩
    intro y hy
    refine hq y ?_
    cases l <;> simpa [Letters.chars, Letter.chars, Code.chars] using hy
  have hnil : gapText [] = [] := rfl
  induction ls with
  | nil => exact ⟨[], [], rfl, by simp, by simp [Letters.chars], fun acc => by
      simp [Letters.foldedFrom, hnil]⟩
  | cons l ls ih =>
    cases l with
    | raw x hx =>
      by_cases hsep : separates x = true
      · obtain ⟨gap, rest, hchars, hgap, hrest, hfold⟩ := ih
        refine ⟨x :: gap, rest, ?_, ?_, hrest, fun acc => ?_⟩
        · rw [Letters.chars, List.flatMap_cons, ← Letters.chars, hchars]
          rfl
        · exact List.forall_mem_cons.mpr ⟨isFoldable_of_raw hx hsep, hgap⟩
        · rw [Letters.foldedFrom, if_pos hsep, hfold, List.append_assoc, List.singleton_append]
      · have hsep : separates x = false := by simpa using hsep
        exact hstop (by simpa [Letter.chars] using hsep)
          fun acc => by simp [Letters.foldedFrom, hsep, hnil]
    | escape x y h =>
      exact hstop (by simp [Letter.chars]; decide)
        fun acc => by simp [Letters.foldedFrom, hnil]
    | code y =>
      exact hstop (by simp [Letter.chars, Code.chars]; decide)
        fun acc => by simp [Letters.foldedFrom, hnil]
    | pair high low h =>
      exact hstop (by simp [Letter.chars, Code.chars]; decide)
        fun acc => by simp [Letters.foldedFrom, hnil]

/-- Letters that begin with something else than spaces and breaks: none, or a character and the
letters behind it, where the codes of two surrogates are two characters. -/
theorem nil_or_simple (ls : Letters) (h : ∀ y ∈ ls.chars.head?, separates y = false) :
    (ls.chars = [] ∧ ls.foldedFrom [] = []) ∨
      ∃ (l : Letter) (rest : Letters), Simple l ∧ ls.chars = l.chars ++ rest.chars ∧
        ls.foldedFrom [] = l.char :: rest.foldedFrom [] := by
  have hnil : gapText [] = [] := rfl
  cases ls with
  | nil => exact .inl ⟨rfl, rfl⟩
  | cons l ls =>
    right
    cases l with
    | raw x hx =>
      have hsep : separates x = false := h x rfl
      exact ⟨.raw x hx, ls, hsep, rfl, by simp [Letters.foldedFrom, hsep, hnil, Letter.char]⟩
    | escape x y hxy =>
      exact ⟨.escape x y hxy, ls, trivial, rfl, by simp [Letters.foldedFrom, hnil]⟩
    | code x => exact ⟨.code x, ls, trivial, rfl, by simp [Letters.foldedFrom, hnil]⟩
    | pair high low hpair =>
      have hhigh : ofUnit high.unit = LoneSurrogate.standIn := by simp [ofUnit, hpair.1]
      have hlow : ofUnit low.unit = LoneSurrogate.standIn := by simp [ofUnit, hpair.2]
      refine ⟨.code high, .code low :: ls, trivial, ?_, ?_⟩
      · simp [Letters.chars, Letter.chars]
      · simp [Letters.foldedFrom, hnil, Letter.char, hhigh, hlow]

/-- What reading some characters up to the closing quote gives: a text, unless there is a document
mark in them. -/
def ReadsQuoted (start : Mark) (fuel : Nat) (c : Cursor) (cs text : List Char) : Prop :=
  (¬ HasMark cs → scanQuoted start .double fuel c = .ok (text, c.advanceBy (cs.length + 1))) ∧
    (HasMark cs → ∃ e, scanQuoted start .double fuel c = .error e)

theorem readsQuoted_of_part {start : Mark} {fuel n : Nat} {part cs' text : List Char}
    (hpart : quotedPart start .double c = .ok (some part, c.advanceBy n))
    (hlen : cs.length = n + cs'.length) (hmark : HasMark cs ↔ HasMark cs')
    (h : ReadsQuoted start fuel (c.advanceBy n) cs' text) :
    ReadsQuoted start (fuel + 1) c cs (part ++ text) := by
  rw [ReadsQuoted, scanQuoted, hpart, hmark, hlen, Nat.add_assoc, advanceBy_add]
  refine ⟨fun hnot => by simp only [h.1 hnot]; rfl, fun hyes => ?_⟩
  obtain ⟨e, he⟩ := h.2 hyes
  exact ⟨e, by simp only [he]; rfl⟩

/-- Inside quotes, spaces and breaks are one part. -/
theorem quotedPart_gap (start : Mark) {x : Char} {ys : List Char} (hx : IsFoldable x)
    (hc : c.rest = x :: ys) :
    quotedPart start .double c =
      (quotedGap start c).map fun (text, c) => (some text, c) := by
  have hpeek : c.peek = x := peek_eq hc
  have hquote : x ≠ '"' ∧ x ≠ '\\' := by
    have hsep := hx.separates
    constructor <;> rintro rfl <;> exact absurd hsep (by decide)
  simp [quotedPart, hc, hpeek, Quote.mark, hquote, hx.separates]

/-- A JSON string is a double-quoted scalar exactly if there is no document mark in it. -/
theorem readsQuoted_letters (start : Mark) {fuel : Nat} (ls : Letters)
    (hc : c.rest = ls.chars ++ '"' :: more) (hfuel : ls.chars.length < fuel) :
    ReadsQuoted start fuel c ls.chars (ls.foldedFrom []) := by
  induction fuel generalizing c ls with
  | zero => omega
  | succ fuel ih =>
    obtain ⟨gap, rest, hchars, hgap, hrest, hfold⟩ := exists_gap_letters ls
    have hmark : HasMark (gap ++ rest.chars) ↔
        ((∃ b ∈ gap.getLast?, isBreak b = true) ∧ BeginsMark rest.chars) ∨ HasMark rest.chars :=
      hasMark_append_of_separates fun x hx => (hgap x hx).separates
    rw [hchars] at hc hfuel ⊢
    rw [hfold, List.nil_append]
    cases gap with
    | cons x gap =>
      have hbehind : Behind rest.chars more (rest.chars ++ '"' :: more) := ⟨rfl, hrest⟩
      rw [List.append_assoc] at hc
      have hpart := quotedPart_gap start (hgap x List.mem_cons_self) hc
      have hread := quotedGap_eq start hc hbehind hgap
      by_cases hbad : (∃ b ∈ (x :: gap).getLast?, isBreak b = true) ∧ BeginsMark rest.chars
      · obtain ⟨e, he⟩ := hread.2 hbad
        refine ⟨fun hnot => absurd (hmark.mpr (.inl hbad)) hnot, fun _ => ⟨e, ?_⟩⟩
        rw [scanQuoted, hpart, he]
        rfl
      · have hpart' : quotedPart start .double c =
            .ok (some (gapText (x :: gap)), c.advanceBy (x :: gap).length) := by
          rw [hpart, hread.1 hbad]
          rfl
        exact readsQuoted_of_part hpart' (by rw [List.length_append])
          (hmark.trans (or_iff_right hbad)) (ih rest (rest_advanceBy hc) (by simp at hfuel; omega))
    | nil =>
      rw [List.nil_append] at hc hfuel ⊢
      rw [show gapText [] = [] from rfl, List.nil_append]
      rcases nil_or_simple rest hrest with ⟨hnil, htext⟩ | ⟨l, behind, hl, hbehind, htext⟩
      · rw [hnil] at hc ⊢
        have hclose : quotedPart start .double c = .ok (none, c.advance) := by
          simp [quotedPart, hc, peek_eq hc, Quote.mark]
        refine ⟨fun _ => ?_, fun ⟨before, b, after, h, _⟩ => by simp at h⟩
        rw [scanQuoted, hclose, htext]
        rfl
      · rw [hbehind, List.append_assoc] at hc
        rw [hbehind, List.length_append] at hfuel
        have hpos : 0 < l.chars.length := by cases l <;> simp [Letter.chars, Code.chars]
        rw [hbehind, htext]
        exact readsQuoted_of_part (quotedPart_letter start hl hc) (by rw [List.length_append])
          (hasMark_append_of_noBreak (noBreak_of_simple hl))
          (ih behind (rest_advanceBy hc) (by omega))

end Yaml

end RemoteBindings
