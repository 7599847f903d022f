import Mathlib.Data.Bool.AllAny
import Mathlib.Data.List.TakeWhile
import RemoteBindings.Proofs.JsonGrammar
import RemoteBindings.Proofs.NodeValues
import RemoteBindings.Proofs.WrittenNumbers

/-!
# Bare JSON values as plain scalars

The scalar with the characters of a bare JSON value gets its tag from their form. Integers, numbers
with a fraction and without an exponent, and `null`, `true` and `false` stand for the same value as
in JSON; a number with an exponent does so only if it has a fraction and the exponent a sign. Every
other bare value stands for its own characters (`Bare.asPlain`, `isLeaf_bare`).
-/

namespace RemoteBindings

namespace Json

/-- Whether a bare value has a form that both languages read. -/
def Bare.isCommon : Bare → Bool
  | .word w _ => ["null".toList, "true".toList, "false".toList].contains w.1
  | .number n => match n.exponent with
    | none => true
    | some e => !n.fraction.isEmpty && !e.sign.isEmpty

/-- What the characters of a bare value stand for as a plain scalar. -/
def Bare.asPlain (b : Bare) : Value :=
  if b.isCommon then b.value else .text (String.ofList b.chars)

/-! ## The characters of numbers -/

def numberChars : List Char := "0123456789+-.eE".toList

theorem forall_isDigit {p : Char → Prop} (h : ∀ d < 10, p (Char.ofNat (48 + d))) {c : Char}
    (hc : c.isDigit = true) : p c := by
  obtain ⟨hlow, hhigh⟩ := Char.isDigit_iff_toNat.mp hc
  have hlow : 48 ≤ c.toNat := hlow
  have hhigh : c.toNat ≤ 57 := hhigh
  have := h (c.toNat - 48) (by omega)
  rwa [Nat.add_sub_cancel' hlow, Char.ofNat_toNat] at this

theorem mem_numberChars_of_isDigit {c : Char} (hc : c.isDigit = true) : c ∈ numberChars :=
  forall_isDigit (p := (· ∈ numberChars)) (by decide) hc

theorem Exponent.mem_numberChars (e : Exponent) {c : Char} (hc : c ∈ e.chars) :
    c ∈ numberChars := by
  have hmark : e.mark ∈ numberChars := by
    rcases e.mark_eq with h | h <;> rw [h] <;> decide
  have hsign : e.sign ⊆ numberChars := by
    rcases e.sign_eq with h | h | h <;> rw [h] <;> decide
  simp only [chars, List.cons_append, List.mem_cons, List.mem_append] at hc
  rcases hc with rfl | hc | hc
  · exact hmark
  · exact hsign hc
  · exact mem_numberChars_of_isDigit (e.isDigit c hc)

namespace Numeral

variable (n : Numeral)

theorem mem_numberChars_of_mem_unsigned {c : Char} (hc : c ∈ n.unsigned) : c ∈ numberChars := by
  simp only [unsigned, List.mem_append] at hc
  rcases hc with (hc | hc) | hc
  · exact mem_numberChars_of_isDigit (n.whole_isDigit c hc)
  · unfold point at hc
    split at hc
    · cases hc
    · rcases List.mem_cons.mp hc with rfl | hc
      · decide
      · exact mem_numberChars_of_isDigit (n.fraction_isDigit c hc)
  · unfold tail at hc
    cases he : n.exponent with
    | none => simp [he] at hc
    | some e =>
      rw [he] at hc
      exact e.mem_numberChars hc

theorem mem_numberChars {c : Char} (hc : c ∈ n.chars) : c ∈ numberChars := by
  rcases List.mem_append.mp hc with hc | hc
  · unfold sign at hc
    split at hc
    · rw [List.mem_singleton.mp hc]
      decide
    · cases hc
  · exact n.mem_numberChars_of_mem_unsigned hc

theorem exists_unsigned_eq_cons : ∃ d ds, n.unsigned = d :: ds ∧ d.isDigit = true := by
  obtain ⟨d, ds, hw⟩ := List.exists_cons_of_ne_nil n.whole_ne_nil
  exact ⟨d, ds ++ n.point ++ n.tail, by simp [unsigned, hw],
    n.whole_isDigit d (hw ▸ List.mem_cons_self)⟩

end Numeral

end Json

namespace Yaml

open Json

variable {cs : List Char}

/-! ## Texts of such characters -/

theorem withoutMarks_eq (h : ∀ c ∈ cs, c ∈ numberChars) : withoutMarks cs = cs := by
  have hall : ∀ c ∈ numberChars, (c != '_') = true := List.all_eq_true.mp (by decide)
  exact List.filter_eq_self.mpr fun c hc => hall c (h c hc)

theorem trimPlainSpace_eq (h : ∀ c ∈ cs, Text.isPlainSpace c = false) :
    Text.trimPlainSpace cs = cs := by
  have hdrop : ∀ ds : List Char, (∀ c ∈ ds, Text.isPlainSpace c = false) →
      ds.dropWhile Text.isPlainSpace = ds := by
    intro ds hds
    cases ds with
    | nil => rfl
    | cons d ds => simp [hds d List.mem_cons_self]
  rw [Text.trimPlainSpace, Text.dropEndWhile, hdrop cs h,
    hdrop cs.reverse fun c hc => h c (List.mem_reverse.mp hc), List.reverse_reverse]

theorem plainDigits_eq (h : ∀ c ∈ cs, c ∈ numberChars) : Text.plainDigits cs = cs := by
  have hall : ∀ c ∈ numberChars, c.toNat < 0x7F := List.all_iff_forall_prop.mp (by decide)
  refine (List.map_congr_left fun c hc => ?_).trans (List.map_id cs)
  rw [if_pos (hall c (h c hc))]
  rfl

theorem trim_plainDigits_eq (h : ∀ c ∈ cs, c ∈ numberChars) :
    Text.trimPlainSpace (Text.plainDigits cs) = cs := by
  have hall : ∀ c ∈ numberChars, Text.isPlainSpace c = false :=
    List.all_iff_forall_prop.mp (by decide)
  rw [plainDigits_eq h, trimPlainSpace_eq fun c hc => hall c (h c hc)]

theorem not_contains_colon (h : ∀ c ∈ cs, c ∈ numberChars) : cs.contains ':' = false := by
  have hall : ':' ∉ numberChars := by decide
  simpa using fun hc => hall (h ':' hc)

theorem splitAtChars_colon (h : ∀ c ∈ cs, c ∈ numberChars) :
    Text.splitAtChars (· == ':') cs = [cs] := by
  have hall : ∀ c ∈ numberChars, (c == ':') = false := List.all_iff_forall_prop.mp (by decide)
  induction cs with
  | nil => rfl
  | cons c cs ih =>
    obtain ⟨hc, hcs⟩ := List.forall_mem_cons.mp h
    rw [Text.splitAtChars, hall c hc, ih hcs]
    rfl

theorem isSexagesimal_eq (h : ∀ c ∈ cs, c ∈ numberChars) (head : List Char → Bool) :
    Tag.isSexagesimal head cs = false := by
  rw [Tag.isSexagesimal, splitAtChars_colon h]

theorem withoutFinalBreak_eq (h : '\n' ∉ cs) : Tag.withoutFinalBreak cs = cs := by
  rw [Tag.withoutFinalBreak, if_neg]
  exact fun hlast => h (List.mem_of_getLast? hlast.2)

theorem digitsIn?_eq (hne : cs ≠ []) (h : ∀ c ∈ cs, c.isDigit = true) :
    digitsIn? 10 cs = some (Text.digitsValue 10 cs) := by
  have hall : ∀ c ∈ cs, isDigitIn 10 c = true := fun c hc =>
    forall_isDigit (p := fun c => isDigitIn 10 c = true) (by decide) (h c hc)
  rw [digitsIn?, if_neg]
  simpa [hne] using hall

/-- No word of the language is written with the characters of numbers. -/
theorem notMem_of_numberChars {ws : List String}
    (hws : ∀ w ∈ ws, ¬ w.toList ⊆ numberChars) (h : ∀ c ∈ cs, c ∈ numberChars) :
    String.ofList cs ∉ ws := by
  intro hmem
  refine hws _ hmem fun c hc => h c ?_
  simpa using hc

/-! ## Integers -/

theorem integerIn_eq (hne : cs ≠ []) (h : ∀ c ∈ cs, c.isDigit = true)
    (hsize : cs.length ≤ Decimal.maxDigits) :
    integerIn 10 cs = .ok (Text.digitsValue 10 cs : Int) := by
  have hnum : ∀ c ∈ cs, c ∈ numberChars := fun c hc => mem_numberChars_of_isDigit (h c hc)
  have hmark : dropBaseMark 10 cs = cs := by
    unfold dropBaseMark
    split <;> simp
  unfold integerIn
  simp only [trim_plainDigits_eq hnum]
  split
  · exact absurd (h '-' List.mem_cons_self) (by decide)
  · exact absurd (h '+' List.mem_cons_self) (by decide)
  · dsimp only
    rw [hmark, if_neg (by omega), digitsIn?_eq hne h]
    rfl

theorem integerSize_eq (hne : cs ≠ []) (h : ∀ c ∈ cs, c.isDigit = true)
    (hlead : cs = ['0'] ∨ cs.head? ≠ some '0') (hsize : cs.length ≤ Decimal.maxDigits) :
    integerSize cs = .ok (Text.digitsValue 10 cs : Int) := by
  have hnum : ∀ c ∈ cs, c ∈ numberChars := fun c hc => mem_numberChars_of_isDigit (h c hc)
  rcases hlead with rfl | hlead
  · rfl
  · unfold integerSize
    split
    · exact absurd rfl hne
    · exact absurd rfl hlead
    · exact absurd rfl hlead
    · exact absurd rfl hlead
    · exact absurd rfl hlead
    · rw [not_contains_colon hnum, if_neg Bool.false_ne_true, integerIn_eq hne h hsize]

theorem takeSign_chars (n : Numeral) : takeSign n.chars = .ok (n.negative, n.unsigned) := by
  obtain ⟨d, ds, hds, hd⟩ := n.exists_unsigned_eq_cons
  rw [Numeral.chars, Numeral.sign, hds]
  cases hneg : n.negative with
  | true => rfl
  | false =>
    rw [if_neg Bool.false_ne_true, List.nil_append]
    unfold takeSign
    split
    · next heq => cases heq
    · next heq => exact absurd ((List.cons.inj heq).1 ▸ hd) (by decide)
    · next heq => exact absurd ((List.cons.inj heq).1 ▸ hd) (by decide)
    · rfl

theorem dropSign_chars (n : Numeral) : Tag.dropSign n.chars = n.unsigned := by
  obtain ⟨d, ds, hds, hd⟩ := n.exists_unsigned_eq_cons
  rw [Numeral.chars, Numeral.sign, hds]
  cases hneg : n.negative with
  | true => rfl
  | false =>
    have hsign : Tag.isSign d = false :=
      forall_isDigit (p := fun d => Tag.isSign d = false) (by decide) hd
    simp [Tag.dropSign, hsign]

theorem integerValue_eq (n : Numeral) (hf : n.fraction = []) (he : n.exponent = none) :
    integerValue (String.ofList n.chars) = .ok n.value := by
  have hu : n.unsigned = n.whole := by simp [Numeral.unsigned, Numeral.point, Numeral.tail, hf, he]
  rw [integerValue, String.toList_ofList, withoutMarks_eq fun _ => n.mem_numberChars,
    takeSign_chars, hu]
  simp only [bind, Except.bind]
  rw [integerSize_eq n.whole_ne_nil n.whole_isDigit n.leading (n.length_le hf he)]
  simp [Numeral.value, hf, he, pure, Except.pure]

/-! ## Floats -/

theorem exponentOf?_eq (e : Exponent) : exponentOf? (e.sign ++ e.digits) = some e.value := by
  have hdigits := digitsIn?_eq e.digits_ne_nil e.isDigit
  rcases e.sign_eq with h | h | h
  · rw [h, List.nil_append]
    unfold exponentOf?
    split
    · next heq => exact absurd (e.isDigit '-' (heq ▸ List.mem_cons_self)) (by decide)
    · next heq => exact absurd (e.isDigit '+' (heq ▸ List.mem_cons_self)) (by decide)
    · simp [hdigits, Exponent.value, h]
  · simp [h, exponentOf?, hdigits, Exponent.value]
  · simp [h, exponentOf?, hdigits, Exponent.value]

/-- A number with a fraction, whose exponent counts as zero if there is none. -/
theorem decimal?_eq (n : Numeral) (hf : n.fraction ≠ []) :
    decimal? false n.unsigned = some (n.decimal.toFloat false) := by
  have hdigit : ∀ c : Char, c.isDigit = true → (!isExponentMark c) = true :=
    fun c hc => forall_isDigit (p := fun c => (!isExponentMark c) = true) (by decide) hc
  have hpoint : n.point = '.' :: n.fraction := by simp [Numeral.point, hf]
  have hmantissa : ∀ c ∈ n.whole ++ '.' :: n.fraction, (!isExponentMark c) = true := by
    intro c hc
    rcases List.mem_append.mp hc with hc | hc
    · exact hdigit c (n.whole_isDigit c hc)
    · rcases List.mem_cons.mp hc with rfl | hc
      · decide
      · exact hdigit c (n.fraction_isDigit c hc)
  have htail : n.tail.takeWhile (fun c => !isExponentMark c) = [] ∧
      n.tail.dropWhile (fun c => !isExponentMark c) = n.tail := by
    unfold Numeral.tail
    cases n.exponent with
    | none => exact ⟨rfl, rfl⟩
    | some e => rcases e.mark_eq with h | h <;> simp [Exponent.chars, h, isExponentMark]
  have htake : n.unsigned.takeWhile (fun c => !isExponentMark c) =
      n.whole ++ '.' :: n.fraction := by
    rw [Numeral.unsigned, hpoint, List.takeWhile_append_of_pos hmantissa, htail.1, List.append_nil]
  have hdrop : n.unsigned.dropWhile (fun c => !isExponentMark c) = n.tail := by
    rw [Numeral.unsigned, hpoint, List.dropWhile_append_of_pos hmantissa, htail.2]
  have hwhole : (n.whole ++ '.' :: n.fraction).takeWhile Char.isDigit = n.whole := by
    rw [List.takeWhile_append_of_pos n.whole_isDigit]
    simp
  have hfraction : (n.whole ++ '.' :: n.fraction).dropWhile Char.isDigit = '.' :: n.fraction := by
    rw [List.dropWhile_append_of_pos n.whole_isDigit]
    simp
  have hall : n.fraction.all Char.isDigit = true := List.all_eq_true.mpr n.fraction_isDigit
  unfold decimal?
  simp only [htake, hdrop, hwhole, hfraction, hall]
  rw [if_neg (by simp [n.whole_ne_nil])]
  simp only [Numeral.tail, Numeral.decimal]
  cases n.exponent with
  | none => rfl
  | some e => simp [Exponent.chars, exponentOf?_eq]

theorem lowerChars_eq (h : ∀ c ∈ cs, c ∈ numberChars) :
    Text.lowerChars cs = cs.map Char.toLower := by
  have hsigma : 'Σ' ∉ numberChars := by decide
  have hascii : ∀ c ∈ numberChars, Text.isAscii c = true := List.all_eq_true.mp (by decide)
  have key : ∀ before : List Char, Text.lowerAfter before cs = cs.map Char.toLower := by
    induction cs with
    | nil => exact fun _ => rfl
    | cons c cs ih =>
      intro before
      obtain ⟨hc, hcs⟩ := List.forall_mem_cons.mp h
      rw [Text.lowerAfter, if_neg fun heq : c = 'Σ' => hsigma (heq ▸ hc),
        Text.lowerChar_ascii (hascii c hc), ih hcs]
      rfl
  exact key []

/-- A number in small letters. -/
def lowered (n : Numeral) : Numeral :=
  { n with
    exponent := n.exponent.map fun e => { e with mark := 'e', mark_eq := .inl rfl }
    length_le := fun hf he => n.length_le hf (by simpa using he) }

theorem decimal_lowered (n : Numeral) : (lowered n).decimal = n.decimal := by
  simp only [Numeral.decimal, lowered, Option.map_map]
  rfl

theorem lowerChars_chars (n : Numeral) : Text.lowerChars n.chars = (lowered n).chars := by
  have hdigits : ∀ ds : List Char, (∀ c ∈ ds, c.isDigit = true) → ds.map Char.toLower = ds :=
    fun ds h => (List.map_congr_left fun c hc =>
      forall_isDigit (p := fun c => c.toLower = id c) (by decide) (h c hc)).trans (List.map_id ds)
  have hsign : n.sign.map Char.toLower = n.sign := by
    unfold Numeral.sign
    split <;> rfl
  have hpoint : n.point.map Char.toLower = n.point := by
    unfold Numeral.point
    split
    · rfl
    · exact congrArg ('.' :: ·) (hdigits _ n.fraction_isDigit)
  have htail : n.tail.map Char.toLower = (lowered n).tail := by
    simp only [Numeral.tail, lowered]
    cases n.exponent with
    | none => rfl
    | some e =>
      have hesign : e.sign.map Char.toLower = e.sign := by
        rcases e.sign_eq with h | h | h <;> rw [h] <;> rfl
      have hmark : e.mark.toLower = 'e' := by
        rcases e.mark_eq with h | h <;> rw [h] <;> rfl
      simp [Exponent.chars, hesign, hmark, hdigits _ e.isDigit]
  rw [lowerChars_eq fun _ => n.mem_numberChars]
  simp only [Numeral.chars, Numeral.unsigned, List.map_append, hsign, hpoint, htail,
    hdigits _ n.whole_isDigit]
  rfl

theorem floatIn_eq (n : Numeral) (hf : n.fraction ≠ []) :
    floatIn n.unsigned = .ok (n.decimal.toFloat false) := by
  have hnum : ∀ c ∈ n.unsigned, c ∈ numberChars := fun _ => n.mem_numberChars_of_mem_unsigned
  obtain ⟨d, ds, hds, hd⟩ := n.exists_unsigned_eq_cons
  have hsigned : signedFloat? false n.unsigned = decimal? false n.unsigned := by
    have hnot : String.ofList n.unsigned ∉ ["inf", "infinity", "nan"] :=
      notMem_of_numberChars (by decide) hnum
    simp only [List.mem_cons, not_or] at hnot
    rw [signedFloat?]
    simp [hnot]
  rw [decimal?_eq n hf, hds] at hsigned
  have hsign : d ≠ '-' ∧ d ≠ '+' := by
    constructor <;> rintro rfl <;> exact absurd hd (by decide)
  unfold floatIn
  simp only [trim_plainDigits_eq hnum]
  rw [hds]
  simp [hsign, hsigned]

theorem floatSize_eq (n : Numeral) (hf : n.fraction ≠ []) :
    floatSize n.unsigned = .ok (n.decimal.toFloat false) := by
  have hnum : ∀ c ∈ n.unsigned, c ∈ numberChars := fun _ => n.mem_numberChars_of_mem_unsigned
  have hword : ∀ w : List Char, ¬ w ⊆ numberChars → n.unsigned ≠ w :=
    fun w hnot heq => hnot fun c hc => hnum c (heq ▸ hc)
  rw [floatSize, if_neg (hword _ (by decide)), if_neg (hword _ (by decide)),
    not_contains_colon hnum, if_neg Bool.false_ne_true, floatIn_eq n hf]

theorem toFloat_eq (d : Decimal.Number) (negative : Bool) :
    (if negative then -(d.toFloat false) else d.toFloat false) = d.toFloat negative := by
  cases negative <;> rfl

theorem floatValue_eq (origin : Nat) (n : Numeral) (hf : n.fraction ≠ []) :
    floatValue origin (String.ofList n.chars) = .ok n.value := by
  rw [floatValue, String.toList_ofList, withoutMarks_eq fun _ => n.mem_numberChars,
    lowerChars_chars, takeSign_chars]
  simp only [bind, Except.bind]
  rw [floatSize_eq (lowered n) hf, decimal_lowered]
  simp only [toFloat_eq, Value.ofFloat, Decimal.Number.isNaN_toFloat, pure, Except.pure]
  simp [Numeral.value, hf, lowered]

/-! ## The form of a number -/

theorem isDigitOrMark_of_isDigit {c : Char} (h : c.isDigit = true) :
    Tag.isDigitOrMark c = true := by
  simp [Tag.isDigitOrMark, h]

theorem isInt_whole (n : Numeral) (hf : n.fraction = []) (he : n.exponent = none) :
    Tag.isInt n.chars = true := by
  have hu : n.unsigned = n.whole := by simp [Numeral.unsigned, Numeral.point, Numeral.tail, hf, he]
  rw [Tag.isInt, dropSign_chars, hu]
  rcases n.leading with h | h
  · simp [h]
  · obtain ⟨d, ds, hds⟩ := List.exists_cons_of_ne_nil n.whole_ne_nil
    have hall := n.whole_isDigit
    rw [hds] at h hall ⊢
    obtain ⟨hd, hds⟩ := List.forall_mem_cons.mp hall
    have hlead : Tag.isNonzeroDigit d = true :=
      forall_isDigit (p := fun d => d ≠ '0' → Tag.isNonzeroDigit d = true) (by decide) hd
        (by simpa using h)
    have hrest : ds.all Tag.isDigitOrMark = true :=
      List.all_eq_true.mpr fun c hc => isDigitOrMark_of_isDigit (hds c hc)
    have hzero : ∀ rest, d :: ds ≠ '0' :: rest := fun rest heq => by simp_all
    split
    · rfl
    · next heq => exact absurd heq (hzero _)
    · next heq => exact absurd heq (hzero _)
    · next heq => exact absurd heq (hzero _)
    · simp [Tag.startsWithDigit, hlead, hrest]

theorem isExponent_tail (n : Numeral) :
    Tag.isExponent n.tail = n.exponent.all fun e => !e.sign.isEmpty := by
  unfold Numeral.tail
  cases n.exponent with
  | none => rfl
  | some e =>
    have hall : e.digits.all Char.isDigit = true := List.all_eq_true.mpr e.isDigit
    have hmark : (e.mark == 'e' || e.mark == 'E') = true := by simpa using e.mark_eq
    rcases e.sign_eq with h | h | h
    · obtain ⟨d, ds, hds⟩ := List.exists_cons_of_ne_nil e.digits_ne_nil
      have hd : Tag.isSign d = false := forall_isDigit (p := fun d => Tag.isSign d = false)
        (by decide) (e.isDigit d (hds ▸ List.mem_cons_self))
      simp [Exponent.chars, h, hds, Tag.isExponent, hd]
    · simp [Exponent.chars, h, Tag.isExponent, hmark, Tag.isSign, e.digits_ne_nil, hall]
    · simp [Exponent.chars, h, Tag.isExponent, hmark, Tag.isSign, e.digits_ne_nil, hall]

theorem ne_point_of_isDigit {c : Char} (hc : c.isDigit = true) : (c != '.') = true :=
  forall_isDigit (p := fun c => (c != '.') = true) (by decide) hc

theorem ne_point_of_mem_tail (n : Numeral) : ∀ c ∈ n.tail, (c != '.') = true := by
  unfold Numeral.tail
  cases n.exponent with
  | none => simp
  | some e =>
    intro c hc
    simp only [Option.map_some, Option.getD_some, Exponent.chars, List.cons_append,
      List.mem_cons, List.mem_append] at hc
    rcases hc with rfl | hc | hc
    · rcases e.mark_eq with h | h <;> rw [h] <;> decide
    · rcases e.sign_eq with h | h | h <;> rw [h] at hc <;> simp_all
    · exact ne_point_of_isDigit (e.isDigit c hc)

theorem startsWithDigit_whole (n : Numeral) :
    Tag.startsWithDigit Char.isDigit n.whole = true := by
  obtain ⟨d, ds, hds⟩ := List.exists_cons_of_ne_nil n.whole_ne_nil
  have hall := n.whole_isDigit
  rw [hds] at hall ⊢
  obtain ⟨hd, hds⟩ := List.forall_mem_cons.mp hall
  simp only [Tag.startsWithDigit, hd, Bool.true_and, List.all_eq_true]
  exact fun c hc => isDigitOrMark_of_isDigit (hds c hc)

theorem dropWhile_isDigitOrMark (n : Numeral) :
    (n.fraction ++ n.tail).dropWhile Tag.isDigitOrMark = n.tail := by
  rw [List.dropWhile_append_of_pos fun c hc =>
    isDigitOrMark_of_isDigit (n.fraction_isDigit c hc)]
  unfold Numeral.tail
  cases n.exponent with
  | none => rfl
  | some e => rcases e.mark_eq with h | h <;> simp [Exponent.chars, h, Tag.isDigitOrMark]

/-- A number has a point as floats have it exactly if it has a fraction, and a sign in its
exponent. -/
theorem hasPoint_unsigned (n : Numeral) :
    Tag.hasPoint n.unsigned =
      (!n.fraction.isEmpty && n.exponent.all fun e => !e.sign.isEmpty) := by
  have hwhole : ∀ c ∈ n.whole, (c != '.') = true := fun c hc =>
    ne_point_of_isDigit (n.whole_isDigit c hc)
  by_cases hf : n.fraction = []
  · have hu : n.unsigned.dropWhile (· != '.') = [] := by
      rw [List.dropWhile_eq_nil_iff, Numeral.unsigned, Numeral.point, if_pos hf, List.append_nil]
      exact fun c hc => (List.mem_append.mp hc).elim (hwhole c) (ne_point_of_mem_tail n c)
    simp [Tag.hasPoint, hu, hf]
  · have hu : n.unsigned = n.whole ++ '.' :: (n.fraction ++ n.tail) := by
      simp [Numeral.unsigned, Numeral.point, hf]
    have htake : n.unsigned.takeWhile (· != '.') = n.whole := by
      rw [hu, List.takeWhile_append_of_pos hwhole]
      simp
    have hdrop : n.unsigned.dropWhile (· != '.') = '.' :: (n.fraction ++ n.tail) := by
      rw [hu, List.dropWhile_append_of_pos hwhole]
      simp
    have hsexa : Tag.isSexagesimal (Tag.startsWithDigit Char.isDigit) n.whole = false :=
      isSexagesimal_eq (fun c hc => mem_numberChars_of_isDigit (n.whole_isDigit c hc)) _
    simp only [Tag.hasPoint, htake, hdrop, startsWithDigit_whole, Tag.isFraction,
      dropWhile_isDigitOrMark, isExponent_tail, hsexa]
    simp [hf]

theorem isFloat_chars (n : Numeral) :
    Tag.isFloat n.chars = (!n.fraction.isEmpty && n.exponent.all fun e => !e.sign.isEmpty) := by
  have hinf : ∀ w ∈ Tag.infinityWords, ¬ w ⊆ numberChars := by decide
  have hnan : ∀ w ∈ Tag.nanWords, ¬ w ⊆ numberChars := by decide
  have hinf' : Tag.infinityWords.contains n.unsigned = false := by
    simpa using fun hmem => hinf _ hmem fun c hc => n.mem_numberChars_of_mem_unsigned hc
  have hnan' : Tag.nanWords.contains n.chars = false := by
    simpa using fun hmem => hnan _ hmem fun c hc => n.mem_numberChars hc
  unfold Tag.isFloat
  rw [dropSign_chars, hasPoint_unsigned, hinf', hnan', Bool.or_false, Bool.or_false]
  split
  · next heq =>
    obtain ⟨d, ds, hds, hd⟩ := n.exists_unsigned_eq_cons
    rw [Numeral.chars, Numeral.sign, hds] at heq
    split at heq
    · exact absurd (List.cons.inj heq).1 (by decide)
    · exact absurd ((List.cons.inj heq).1 ▸ hd) (by decide)
  · rw [Bool.or_false]

theorem isInt_eq_false_of_exponent (n : Numeral) {e : Exponent} (he : n.exponent = some e) :
    Tag.isInt n.chars = false := by
  have hnum : ∀ c ∈ n.unsigned, c ∈ numberChars := fun _ => n.mem_numberChars_of_mem_unsigned
  obtain ⟨d, ds, hds, hd⟩ := n.exists_unsigned_eq_cons
  have hmark : e.mark ∈ ds := by
    have hmem : e.mark ∈ n.unsigned := by simp [Numeral.unsigned, Numeral.tail, he, Exponent.chars]
    rw [hds, List.mem_cons] at hmem
    refine hmem.resolve_left fun heq => ?_
    rcases e.mark_eq with h | h <;> rw [← heq, h] at hd <;> exact absurd hd (by decide)
  rw [Tag.isInt, dropSign_chars]
  split
  · next heq => simp [hds.symm.trans heq |> List.cons.inj |>.2] at hmark
  · next heq => exact absurd (hnum 'b' (by simp [heq])) (by decide)
  · next heq => exact absurd (hnum 'x' (by simp [heq])) (by decide)
  · next heq =>
    rw [← (List.cons.inj (hds.symm.trans heq)).2, List.all_eq_false]
    exact ⟨e.mark, hmark, by rcases e.mark_eq with h | h <;> rw [h] <;> decide⟩
  · rw [isSexagesimal_eq hnum, Bool.or_false, hds, Tag.startsWithDigit, Bool.and_eq_false_iff,
      List.all_eq_false]
    exact .inr ⟨e.mark, hmark, by rcases e.mark_eq with h | h <;> rw [h] <;> decide⟩

/-- A moment begins with four digits and a hyphen. -/
theorem readMoment?_eq_none (h : ∀ ds rest : List Char, (∀ c ∈ ds, c.isDigit = true) →
    cs = ds ++ '-' :: rest → ds.length ≠ 4) : readMoment? cs = none := by
  unfold readMoment? takeNumber?
  dsimp only
  split
  · rfl
  · next hfour =>
    have htake : (cs.take 4).takeWhile Char.isDigit = cs.take 4 ∧ (cs.take 4).length = 4 := by
      have hle := (List.takeWhile_sublist Char.isDigit (l := cs.take 4)).length_le
      have hle' := List.length_take_le 4 cs
      refine ⟨(List.takeWhile_sublist _).eq_of_length_le (by omega), by omega⟩
    simp only [htake.1, htake.2, Option.bind_eq_bind, Option.bind_some]
    unfold expect?
    split
    · rfl
    · next c rest hdrop =>
      split
      · next hc =>
        refine absurd htake.2 (h _ rest ?_ (by rw [← hc, ← hdrop, List.take_append_drop]))
        rw [← htake.1]
        exact List.all_eq_true.mp List.all_takeWhile
      · rfl

theorem readMoment?_chars (n : Numeral) : readMoment? n.chars = none := by
  refine readMoment?_eq_none fun ds rest hds heq hlen => ?_
  obtain ⟨d, ds, rfl⟩ : ∃ d ds', ds = d :: ds' := List.exists_cons_of_length_pos (by omega)
  rw [Numeral.chars, Numeral.sign] at heq
  split at heq
  · exact absurd (hds d List.mem_cons_self) ((List.cons.inj heq).1 ▸ by decide)
  · -- The digits at the head of a number end before a point or the mark of the exponent.
    have hdrop := congrArg (List.dropWhile Char.isDigit) heq
    rw [List.nil_append, List.dropWhile_append_of_pos hds, Numeral.unsigned, List.append_assoc,
      List.dropWhile_append_of_pos n.whole_isDigit, Numeral.point] at hdrop
    split at hdrop
    · unfold Numeral.tail at hdrop
      cases he : n.exponent with
      | none => simp [he] at hdrop
      | some e => rcases e.mark_eq with h | h <;> simp [he, Exponent.chars, h] at hdrop
    · simp at hdrop

/-! ## Tags and values -/

theorem ofPlain_chars (n : Numeral) :
    Tag.ofPlain (String.ofList n.chars) =
      if Tag.isFloat n.chars then .float else if Tag.isInt n.chars then .int else .str := by
  have hnum : ∀ c ∈ n.chars, c ∈ numberChars := fun _ => n.mem_numberChars
  have htruth : String.ofList n.chars ∉ Tag.truthWords := notMem_of_numberChars (by decide) hnum
  have hnull : String.ofList n.chars ∉ ["~", "null", "Null", "NULL"] :=
    notMem_of_numberChars (by decide) hnum
  have hmark : String.ofList n.chars ∉ ["<<", "=", "!", "&", "*"] :=
    notMem_of_numberChars (by decide) hnum
  have hempty : String.ofList n.chars ≠ "" := by
    obtain ⟨d, ds, hds, -⟩ := n.exists_unsigned_eq_cons
    simp [Numeral.chars, hds]
  have hbreak : Tag.withoutFinalBreak n.chars = n.chars :=
    withoutFinalBreak_eq fun hc => absurd (hnum _ hc) (by decide)
  have hmoment : isMoment n.chars = false := by rw [isMoment, readMoment?_chars]
  simp only [List.mem_cons, not_or] at hnull hmark
  simp only [Tag.ofPlain, String.toList_ofList, hbreak, List.contains_iff_mem, htruth, if_false]
  split
  · rfl
  split
  · rfl
  simp [hmoment, hmark, hnull, hempty, Tag.nullWords]

theorem isLeaf_numeral (n : Numeral) :
    IsLeaf (Tag.ofPlain (String.ofList n.chars)) (String.ofList n.chars)
      (Bare.number n).asPlain := by
  rw [ofPlain_chars, isFloat_chars]
  cases he : n.exponent with
  | none =>
    by_cases hf : n.fraction = []
    · simp only [hf, List.isEmpty_nil, Bool.not_true, Bool.false_and, Bool.false_eq_true, if_false,
        isInt_whole n hf he, if_true]
      refine ⟨by simp, fun _ _ => ?_⟩
      simp only [Bare.asPlain, Bare.isCommon, he, if_true]
      exact integerValue_eq n hf he
    · have hfraction : n.fraction.isEmpty = false := by simpa using hf
      simp only [Option.all_none, hfraction, Bool.not_false, Bool.and_true, if_true]
      refine ⟨by simp, fun _ _ => ?_⟩
      simp only [Bare.asPlain, Bare.isCommon, he, if_true]
      exact floatValue_eq _ n hf
  | some e =>
    by_cases hcommon : (!n.fraction.isEmpty && !e.sign.isEmpty) = true
    · simp only [Option.all_some, hcommon, if_true]
      refine ⟨by simp, fun _ _ => ?_⟩
      simp only [Bare.asPlain, Bare.isCommon, he, hcommon, if_true]
      exact floatValue_eq _ n (by simpa using (Bool.and_eq_true_iff.mp hcommon).1)
    · simp only [Option.all_some, hcommon, if_false, isInt_eq_false_of_exponent n he,
        Bool.false_eq_true]
      simp only [Bare.asPlain, Bare.isCommon, he, hcommon]
      exact isLeaf_str _

theorem isLeaf_word (w : List Char × Value) (hw : w ∈ words) :
    IsLeaf (Tag.ofPlain (String.ofList w.1)) (String.ofList w.1) (Bare.word w hw).asPlain := by
  rw [Bare.asPlain, Bare.isCommon]
  by_cases hcommon : ["null".toList, "true".toList, "false".toList].contains w.1 = true
  · rw [if_pos hcommon]
    change IsLeaf _ _ w.2
    have hwords : ∀ v ∈ words.map Prod.fst,
        ["null".toList, "true".toList, "false".toList].contains v = true →
          Tag.ofPlain (String.ofList v) = if v = "null".toList then .null else .bool := by decide
    rw [hwords w.1 (List.mem_map_of_mem hw) hcommon]
    simp only [words, List.mem_cons, List.not_mem_nil, or_false] at hw
    rcases hw with rfl | rfl | rfl | rfl | rfl | rfl
    · exact ⟨by decide, fun _ _ => rfl⟩
    · exact ⟨by decide, fun _ _ => rfl⟩
    · exact ⟨by decide, fun _ _ => rfl⟩
    all_goals exact absurd hcommon (by decide)
  · have hwords : ∀ v ∈ words.map Prod.fst,
        ["null".toList, "true".toList, "false".toList].contains v = true ∨
          Tag.ofPlain (String.ofList v) = .str := by decide
    rw [if_neg hcommon, (hwords w.1 (List.mem_map_of_mem hw)).resolve_left hcommon]
    exact isLeaf_str _

/-- The plain scalar with the characters of a bare value has a value, wherever it stands. -/
theorem isLeaf_bare (b : Bare) :
    IsLeaf (Tag.ofPlain (String.ofList b.chars)) (String.ofList b.chars) b.asPlain := by
  cases b with
  | number n => exact isLeaf_numeral n
  | word w hw => exact isLeaf_word w hw

end Yaml

end RemoteBindings
