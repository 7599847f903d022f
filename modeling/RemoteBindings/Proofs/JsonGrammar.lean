import RemoteBindings.Json.Reader

/-!
# The grammar of JSON

A `Document` is a JSON text taken apart into the tree of its values, with the white space between
the tokens and with every character of a string as it is written. A `Reading` says what the strings
and the bare values of a tree stand for, and `Tree.read` the whole tree. Every text that
`readDocument` accepts is the text of a document (`exists_document`), and its value is what the
reading `Reading.plain` makes of the tree.
-/

namespace RemoteBindings.Json

/-! ## White space -/

/-- White space between tokens, in a text whose lines end with line feeds. -/
structure Gap where
  chars : List Char
  blank : ∀ c ∈ chars, c = ' ' ∨ c = '\t' ∨ c = '\n'

theorem exists_gap (cs : List Char) (h : '\r' ∉ cs) : ∃ g : Gap, cs = g.chars ++ skipSpace cs := by
  refine ⟨⟨cs.takeWhile isSpace, fun c hc => ?_⟩, List.takeWhile_append_dropWhile.symm⟩
  have hr : c ≠ '\r' := fun heq => h (heq ▸ (List.takeWhile_sublist _).subset hc)
  have hspace : isSpace c = true := List.all_eq_true.mp List.all_takeWhile c hc
  simpa [isSpace, hr, or_assoc] using hspace

/-! ## Strings -/

/-- A 16-bit unit as it is written in an escape. -/
structure Code where
  a : Char
  b : Char
  c : Char
  d : Char
  hex : [a, b, c, d].all Text.isHexDigit = true

namespace Code

def digits (x : Code) : List Char := [x.a, x.b, x.c, x.d]

def chars (x : Code) : List Char := '\\' :: 'u' :: x.digits

def unit (x : Code) : Nat := Text.digitsValue 16 x.digits

end Code

/-- What stands for a character in a string: the character itself, an escape of one letter, its
code, or the codes of two surrogates. -/
inductive Letter where
  | raw (c : Char) (h : c ≠ '"' ∧ c ≠ '\\' ∧ 0x20 ≤ c.toNat)
  | escape (c x : Char) (h : escaped? c = some x)
  | code (x : Code)
  | pair (high low : Code)
    (h : isHighSurrogate high.unit = true ∧ isLowSurrogate low.unit = true)

namespace Letter

def chars : Letter → List Char
  | raw c _ => [c]
  | escape c _ _ => ['\\', c]
  | code x => x.chars
  | pair high low _ => high.chars ++ low.chars

def char : Letter → Char
  | raw c _ => c
  | escape _ x _ => x
  | code x => ofUnit x.unit
  | pair high low _ => ofSurrogates high.unit low.unit

end Letter

/-- A string without its quotes. -/
abbrev Letters := List Letter

namespace Letters

def chars (ls : Letters) : List Char := ls.flatMap Letter.chars

/-- A string in its quotes. -/
def quoted (ls : Letters) : List Char := '"' :: ls.chars ++ ['"']

def text (ls : Letters) : String := String.ofList (ls.map Letter.char)

end Letters

theorem exists_code {a b c d : Char} {n : Nat} (h : unit? a b c d = some n) :
    ∃ x : Code, x.chars = ['\\', 'u', a, b, c, d] ∧ x.unit = n := by
  unfold unit? at h
  split at h
  · next hex => exact ⟨⟨a, b, c, d, hex⟩, rfl, Option.some.inj h⟩
  · cases h

theorem exists_letter_of_takeCode {cs rest : List Char} {c : Char}
    (h : takeCode cs = .ok (c, rest)) : ∃ l : Letter, cs = l.chars ++ rest ∧ l.char = c := by
  unfold takeCode at h
  split at h
  · split at h
    · cases h
    · next hhigh =>
      obtain ⟨x, hx, rfl⟩ := exists_code hhigh
      split at h
      · next hsur hrest =>
        split at h
        · cases h
        · next hlow =>
          obtain ⟨y, hy, rfl⟩ := exists_code hlow
          split at h
          · next hls =>
            obtain ⟨rfl, rfl⟩ := Prod.mk.inj (Except.ok.inj h)
            refine ⟨.pair x y ⟨hsur, hls⟩, ?_, rfl⟩
            rw [hrest, Letter.chars, hx, hy]
            rfl
          · obtain ⟨rfl, rfl⟩ := Prod.mk.inj (Except.ok.inj h)
            exact ⟨.code x, by rw [Letter.chars, hx]; rfl, rfl⟩
      · obtain ⟨rfl, rfl⟩ := Prod.mk.inj (Except.ok.inj h)
        exact ⟨.code x, by rw [Letter.chars, hx]; rfl, rfl⟩
  · cases h

theorem exists_letter {cs rest : List Char} {c : Char} (hq : ∀ r, cs ≠ '"' :: r)
    (h : takeCharacter cs = .ok (c, rest)) : ∃ l : Letter, cs = l.chars ++ rest ∧ l.char = c := by
  unfold takeCharacter at h
  split at h
  · cases h
  · cases h
  · exact exists_letter_of_takeCode h
  · split at h
    · cases h
    · next hx =>
      obtain ⟨rfl, rfl⟩ := Prod.mk.inj (Except.ok.inj h)
      exact ⟨.escape _ _ hx, rfl, rfl⟩
  · next x cs hnil hu hesc =>
    split at h
    · cases h
    · next hsmall =>
      obtain ⟨rfl, rfl⟩ := Prod.mk.inj (Except.ok.inj h)
      refine ⟨.raw x ⟨fun heq => hq cs (heq ▸ rfl), fun heq => ?_, by omega⟩, rfl, rfl⟩
      subst heq
      cases cs with
      | nil => exact hnil rfl rfl
      | cons d ds => exact hesc d ds rfl rfl

theorem exists_letters {fuel : Nat} {done cs rest : List Char} {s : String}
    (h : readCharacters fuel done cs = .ok (s, rest)) :
    ∃ ls : Letters, cs = ls.chars ++ '"' :: rest ∧
      s = String.ofList (done.reverse ++ ls.map Letter.char) := by
  induction fuel generalizing done cs with
  | zero => cases h
  | succ fuel ih =>
    unfold readCharacters at h
    split at h
    · obtain ⟨rfl, rfl⟩ := Prod.mk.inj (Except.ok.inj h)
      exact ⟨[], rfl, by simp⟩
    · next hq =>
      split at h
      · cases h
      · next c next hc =>
        obtain ⟨l, rfl, rfl⟩ := exists_letter (fun r heq => hq r heq) hc
        obtain ⟨ls, rfl, rfl⟩ := ih h
        exact ⟨l :: ls, by simp [Letters.chars], by simp⟩

theorem exists_string {opened rest more : List Char} {s : String}
    (h : readString opened rest = .ok (s, more)) :
    ∃ ls : Letters, '"' :: rest = ls.quoted ++ more ∧ ls.text = s := by
  have hread : readCharacters opened.length [] rest = .ok (s, more) := by
    unfold readString at h
    split at h
    · cases h
    · exact h
  obtain ⟨ls, hcs, rfl⟩ := exists_letters hread
  exact ⟨ls, by simp [hcs, Letters.quoted], by simp [Letters.text]⟩

/-! ## Numbers and words -/

structure Exponent where
  mark : Char
  sign : List Char
  digits : List Char
  mark_eq : mark = 'e' ∨ mark = 'E'
  sign_eq : sign = [] ∨ sign = ['-'] ∨ sign = ['+']
  digits_ne_nil : digits ≠ []
  isDigit : ∀ c ∈ digits, c.isDigit = true

namespace Exponent

def chars (e : Exponent) : List Char := e.mark :: e.sign ++ e.digits

def value (e : Exponent) : Int :=
  let n : Int := Text.digitsValue 10 e.digits
  if e.sign = ['-'] then -n else n

end Exponent

/-- A number in its parts; without a fraction and an exponent it is an integer, which may not be
too long. -/
structure Numeral where
  negative : Bool
  whole : List Char
  /-- The digits behind the point; none without a point. -/
  fraction : List Char
  exponent : Option Exponent
  whole_ne_nil : whole ≠ []
  whole_isDigit : ∀ c ∈ whole, c.isDigit = true
  /-- Only a single zero begins with a zero. -/
  leading : whole = ['0'] ∨ whole.head? ≠ some '0'
  fraction_isDigit : ∀ c ∈ fraction, c.isDigit = true
  length_le : fraction = [] → exponent = none → whole.length ≤ Decimal.maxDigits

namespace Numeral

def sign (n : Numeral) : List Char := if n.negative then ['-'] else []

/-- The point and the digits behind it. -/
def point (n : Numeral) : List Char := if n.fraction = [] then [] else '.' :: n.fraction

/-- The exponent with its mark, if there is one. -/
def tail (n : Numeral) : List Char := (n.exponent.map Exponent.chars).getD []

/-- A number without its sign. -/
def unsigned (n : Numeral) : List Char := n.whole ++ n.point ++ n.tail

def chars (n : Numeral) : List Char := n.sign ++ n.unsigned

/-- The size of a number, with an exponent that counts as zero if there is none. -/
def decimal (n : Numeral) : Decimal.Number :=
  ⟨Text.digitsValue 10 (n.whole ++ n.fraction),
    (n.exponent.map Exponent.value).getD 0 - n.fraction.length⟩

/-- An integer without a fraction and an exponent, otherwise a float. -/
def value (n : Numeral) : Value :=
  if n.fraction.isEmpty && n.exponent.isNone then
    let size : Int := Text.digitsValue 10 n.whole
    .int (if n.negative then -size else size)
  else .float (n.decimal.toFloat n.negative)

end Numeral

/-- A value that is neither a string nor nested. -/
inductive Bare where
  | word (w : List Char × Value) (h : w ∈ words)
  | number (n : Numeral)

namespace Bare

def chars : Bare → List Char
  | word w _ => w.1
  | number n => n.chars

def value : Bare → Value
  | word w _ => w.2
  | number n => n.value

end Bare

theorem takeFraction_eq (cs : List Char) :
    ∃ fraction rest, takeFraction cs = (fraction, rest) ∧ (∀ c ∈ fraction, c.isDigit = true) ∧
      cs = (if fraction = [] then [] else '.' :: fraction) ++ rest := by
  unfold takeFraction
  split
  · next c cs =>
    split
    · next hc =>
      refine ⟨_, _, rfl, ?_, ?_⟩
      · exact List.forall_mem_cons.mpr ⟨hc, List.all_eq_true.mp List.all_takeWhile⟩
      · simp [List.takeWhile_append_dropWhile]
    · exact ⟨_, _, rfl, by simp, by simp⟩
  · exact ⟨_, _, rfl, by simp, by simp⟩

theorem exists_exponent_of_digits {mark : Char} (hmark : mark = 'e' ∨ mark = 'E')
    (sign : List Char) {ds rest : List Char} (hsign : sign = [] ∨ sign = ['-'] ∨ sign = ['+'])
    {negative : Bool} (hneg : negative = decide (sign = ['-'])) {e : Int}
    (h : (match ds.takeWhile Char.isDigit with
      | [] => none
      | digits =>
        let n : Int := Text.digitsValue 10 digits
        some (if negative then -n else n, ds.dropWhile Char.isDigit)) = some (e, rest)) :
    ∃ x : Exponent, mark :: sign ++ ds = x.chars ++ rest ∧ x.value = e := by
  split at h
  · cases h
  · next digits hne =>
    obtain ⟨rfl, rfl⟩ := Prod.mk.inj (Option.some.inj h)
    refine ⟨⟨mark, sign, ds.takeWhile Char.isDigit, hmark, hsign, hne,
      List.all_eq_true.mp List.all_takeWhile⟩, ?_, ?_⟩
    · simp [Exponent.chars, List.takeWhile_append_dropWhile]
    · simp [Exponent.value, hneg]

theorem exists_exponent {cs rest : List Char} {e : Int} (h : takeExponent? cs = some (e, rest)) :
    ∃ x : Exponent, cs = x.chars ++ rest ∧ x.value = e := by
  unfold takeExponent? at h
  split at h
  · split at h
    · next hmark =>
      split at h
      next negative digits hsign =>
      split at hsign
      · obtain ⟨rfl, rfl⟩ := Prod.mk.inj hsign
        exact exists_exponent_of_digits hmark ['-'] (.inr (.inl rfl)) rfl h
      · obtain ⟨rfl, rfl⟩ := Prod.mk.inj hsign
        exact exists_exponent_of_digits hmark ['+'] (.inr (.inr rfl)) rfl h
      · obtain ⟨rfl, rfl⟩ := Prod.mk.inj hsign
        exact exists_exponent_of_digits hmark [] (.inl rfl) rfl h
    · cases h
  · cases h

theorem exists_numeral {start cs rest : List Char} {negative : Bool} {v : Value}
    (h : readNumber start negative cs = .ok (v, rest)) :
    ∃ n : Numeral, n.negative = negative ∧ n.sign ++ cs = n.chars ++ rest ∧ n.value = v := by
  unfold readNumber at h
  split at h
  next whole behind hwhole =>
  have ⟨hcs, hdigits, hleading⟩ : cs = whole ++ behind ∧ (∀ c ∈ whole, c.isDigit = true) ∧
      (whole = ['0'] ∨ whole.head? ≠ some '0') := by
    split at hwhole
    · obtain ⟨rfl, rfl⟩ := Prod.mk.inj hwhole
      exact ⟨rfl, by simp, .inl rfl⟩
    · next hzero =>
      obtain ⟨rfl, rfl⟩ := Prod.mk.inj hwhole
      refine ⟨List.takeWhile_append_dropWhile.symm, List.all_eq_true.mp List.all_takeWhile,
        .inr ?_⟩
      cases cs with
      | nil => simp
      | cons c cs =>
        rw [List.takeWhile_cons]
        split
        · exact fun heq => hzero cs (by rw [Option.some.inj heq])
        · simp
  split at h
  · cases h
  · next hne =>
    obtain ⟨fraction, behind', hfraction, hall, rfl⟩ := takeFraction_eq behind
    simp only [hfraction] at h
    split at h
    · next e after hexp =>
      obtain ⟨x, rfl, rfl⟩ := exists_exponent hexp
      obtain ⟨rfl, rfl⟩ := Prod.mk.inj (Except.ok.inj h)
      refine ⟨⟨negative, whole, fraction, some x, by simpa using hne, hdigits, hleading, hall,
        nofun⟩, rfl, ?_, by simp [Numeral.value, Numeral.decimal]⟩
      simp [Numeral.chars, Numeral.unsigned, Numeral.tail, Numeral.sign, Numeral.point, hcs]
    · split at h
      · next hnil =>
        split at h
        · cases h
        · next hsize =>
          obtain ⟨rfl, rfl⟩ := Prod.mk.inj (Except.ok.inj h)
          obtain rfl : fraction = [] := by simpa using hnil
          refine ⟨⟨negative, whole, [], none, by simpa using hne, hdigits, hleading, hall,
            fun _ _ => Nat.le_of_not_lt hsize⟩, rfl, ?_, by simp [Numeral.value]⟩
          simp [Numeral.chars, Numeral.unsigned, Numeral.tail, Numeral.sign, Numeral.point, hcs]
      · next hsome =>
        obtain ⟨rfl, rfl⟩ := Prod.mk.inj (Except.ok.inj h)
        have hnil : fraction ≠ [] := by simpa using hsome
        refine ⟨⟨negative, whole, fraction, none, by simpa using hne, hdigits, hleading, hall,
          fun heq => absurd heq hnil⟩, rfl, ?_, ?_⟩
        · simp [Numeral.chars, Numeral.unsigned, Numeral.tail, Numeral.sign, Numeral.point, hcs]
        · simp [Numeral.value, Numeral.decimal, hnil]

theorem exists_bare {cs rest : List Char} {v : Value} (h : readScalar cs = .ok (v, rest)) :
    ∃ b : Bare, cs = b.chars ++ rest ∧ b.value = v := by
  unfold readScalar at h
  split at h
  · next word value hfind =>
    obtain ⟨rfl, rfl⟩ := Prod.mk.inj (Except.ok.inj h)
    refine ⟨.word _ (List.mem_of_find?_eq_some hfind), ?_, rfl⟩
    have hpre := List.find?_some hfind
    obtain ⟨more, rfl⟩ := List.isPrefixOf_iff_prefix.mp hpre
    simp [Bare.chars]
  · split at h
    · next digits =>
      obtain ⟨n, hneg, hcs, rfl⟩ := exists_numeral h
      exact ⟨.number n, by simpa [Numeral.sign, hneg, Bare.chars] using hcs, rfl⟩
    · obtain ⟨n, hneg, hcs, rfl⟩ := exists_numeral h
      exact ⟨.number n, by simpa [Numeral.sign, hneg, Bare.chars] using hcs, rfl⟩

/-! ## Documents -/

/-- The name of a member of an object, up to the value. -/
structure Name where
  before : Gap
  letters : Letters
  /-- Between the name and the colon. -/
  gap : Gap
  behind : Gap

def Name.chars (n : Name) : List Char :=
  n.before.chars ++ n.letters.quoted ++ n.gap.chars ++ ':' :: n.behind.chars

mutual

inductive Tree where
  | string (ls : Letters)
  | bare (b : Bare)
  | emptyList (g : Gap)
  | list (items : Items)
  | emptyObject (g : Gap)
  | object (members : Members)

/-- The items of a list, each in its white space. -/
inductive Items where
  | last (before : Gap) (t : Tree) (after : Gap)
  | more (before : Gap) (t : Tree) (after : Gap) (rest : Items)

inductive Members where
  | last (name : Name) (t : Tree) (after : Gap)
  | more (name : Name) (t : Tree) (after : Gap) (rest : Members)

end

mutual

def Tree.chars : Tree → List Char
  | .string ls => ls.quoted
  | .bare b => b.chars
  | .emptyList g => '[' :: g.chars ++ [']']
  | .list items => '[' :: items.chars ++ [']']
  | .emptyObject g => '\x7b' :: g.chars ++ ['\x7d']
  | .object members => '\x7b' :: members.chars ++ ['\x7d']

def Items.chars : Items → List Char
  | .last before t after => before.chars ++ t.chars ++ after.chars
  | .more before t after rest =>
    before.chars ++ t.chars ++ after.chars ++ ',' :: rest.chars

def Members.chars : Members → List Char
  | .last name t after => name.chars ++ t.chars ++ after.chars
  | .more name t after rest => name.chars ++ t.chars ++ after.chars ++ ',' :: rest.chars

end

/-- What strings and bare values stand for. -/
structure Reading where
  text : Letters → String
  bare : Bare → Value

mutual

/-- The value of a tree; of members of one name the last one counts, in the place of the first. -/
def Tree.read (r : Reading) : Tree → Value
  | .string ls => .text (r.text ls)
  | .bare b => r.bare b
  | .emptyList _ => .list []
  | .list items => .list (items.read r)
  | .emptyObject _ => .map []
  | .object members => Value.mapOfList (members.read r)

def Items.read (r : Reading) : Items → List Value
  | .last _ t _ => [t.read r]
  | .more _ t _ rest => t.read r :: rest.read r

def Members.read (r : Reading) : Members → List (Value × Value)
  | .last name t _ => [(.text (r.text name.letters), t.read r)]
  | .more name t _ rest => (.text (r.text name.letters), t.read r) :: rest.read r

end

/-- Characters stand for themselves, escapes for what they name, and every number for a number. -/
def Reading.plain : Reading := ⟨Letters.text, Bare.value⟩

/-! ## Demands on the parts of a tree -/

/-- What the parts of a tree have to satisfy. -/
structure Demands where
  gap : Gap → Prop := fun _ => True
  text : Letters → Prop := fun _ => True
  bare : Bare → Prop := fun _ => True
  name : Name → Prop := fun _ => True

def Demands.and (p q : Demands) : Demands where
  gap g := p.gap g ∧ q.gap g
  text ls := p.text ls ∧ q.text ls
  bare b := p.bare b ∧ q.bare b
  name n := p.name n ∧ q.name n

variable {p q : Demands}

def Name.Each (p : Demands) (n : Name) : Prop :=
  p.gap n.before ∧ p.text n.letters ∧ p.gap n.gap ∧ p.gap n.behind ∧ p.name n

mutual

def Tree.Each (p : Demands) : Tree → Prop
  | .string ls => p.text ls
  | .bare b => p.bare b
  | .emptyList g => p.gap g
  | .list items => items.Each p
  | .emptyObject g => p.gap g
  | .object members => members.Each p

def Items.Each (p : Demands) : Items → Prop
  | .last before t after => p.gap before ∧ t.Each p ∧ p.gap after
  | .more before t after rest => p.gap before ∧ t.Each p ∧ p.gap after ∧ rest.Each p

def Members.Each (p : Demands) : Members → Prop
  | .last name t after => name.Each p ∧ t.Each p ∧ p.gap after
  | .more name t after rest => name.Each p ∧ t.Each p ∧ p.gap after ∧ rest.Each p

end

theorem Demands.and_gap (g : Gap) : (p.and q).gap g ↔ p.gap g ∧ q.gap g := Iff.rfl

theorem Name.each_and (n : Name) : n.Each (p.and q) ↔ n.Each p ∧ n.Each q := by
  have htext : (p.and q).text n.letters ↔ p.text n.letters ∧ q.text n.letters := Iff.rfl
  have hname : (p.and q).name n ↔ p.name n ∧ q.name n := Iff.rfl
  simp only [Name.Each, Demands.and_gap, htext, hname]
  grind

mutual

theorem Tree.each_and : ∀ t : Tree, t.Each (p.and q) ↔ t.Each p ∧ t.Each q
  | .string _ | .bare _ | .emptyList _ | .emptyObject _ => Iff.rfl
  | .list items => items.each_and
  | .object members => members.each_and

theorem Items.each_and : ∀ items : Items, items.Each (p.and q) ↔ items.Each p ∧ items.Each q
  | .last before t after => by
    simp only [Items.Each, t.each_and, Demands.and_gap]
    grind
  | .more before t after rest => by
    simp only [Items.Each, t.each_and, rest.each_and, Demands.and_gap]
    grind

theorem Members.each_and :
    ∀ members : Members, members.Each (p.and q) ↔ members.Each p ∧ members.Each q
  | .last n t after => by
    simp only [Members.Each, n.each_and, t.each_and, Demands.and_gap]
    grind
  | .more n t after rest => by
    simp only [Members.Each, n.each_and, t.each_and, rest.each_and, Demands.and_gap]
    grind

end

/-- Two readings that agree where a demand is met. -/
structure Reading.Agree (p : Demands) (r r' : Reading) : Prop where
  text : ∀ ls, p.text ls → r.text ls = r'.text ls
  bare : ∀ b, p.bare b → r.bare b = r'.bare b

variable {r r' : Reading}

mutual

theorem Tree.read_congr (t : Tree) (ha : Reading.Agree p r r') (h : t.Each p) :
    t.read r = t.read r' := by
  cases t with
  | string ls => exact congrArg Value.text (ha.text ls h)
  | bare b => exact ha.bare b h
  | emptyList g => rfl
  | list items => exact congrArg Value.list (items.read_congr ha h)
  | emptyObject g => rfl
  | object members => exact congrArg Value.mapOfList (members.read_congr ha h)

theorem Items.read_congr (items : Items) (ha : Reading.Agree p r r') (h : items.Each p) :
    items.read r = items.read r' := by
  cases items with
  | last before t after => rw [Items.read, Items.read, t.read_congr ha h.2.1]
  | more before t after rest =>
    rw [Items.read, Items.read, t.read_congr ha h.2.1, rest.read_congr ha h.2.2.2]

theorem Members.read_congr (members : Members) (ha : Reading.Agree p r r') (h : members.Each p) :
    members.read r = members.read r' := by
  cases members with
  | last n t after =>
    rw [Members.read, Members.read, t.read_congr ha h.2.1, ha.text n.letters h.1.2.1]
  | more n t after rest =>
    rw [Members.read, Members.read, t.read_congr ha h.2.1, rest.read_congr ha h.2.2.2,
      ha.text n.letters h.1.2.1]

end

/-- A text that holds one value. -/
structure Document where
  before : Gap
  tree : Tree
  after : Gap

def Document.chars (d : Document) : List Char :=
  d.before.chars ++ d.tree.chars ++ d.after.chars

def Document.Each (p : Demands) (d : Document) : Prop :=
  p.gap d.before ∧ d.tree.Each p ∧ p.gap d.after

theorem Document.each_and (d : Document) : d.Each (p.and q) ↔ d.Each p ∧ d.Each q := by
  simp only [Document.Each, d.tree.each_and, Demands.and_gap]
  grind

/-! ## The reader accepts documents only -/

/-- What the readers accept with some fuel. -/
structure Sound (fuel : Nat) : Prop where
  value : ∀ {cs rest v}, '\r' ∉ cs → readValue fuel cs = .ok (v, rest) →
    ∃ t : Tree, cs = t.chars ++ rest ∧ t.read .plain = v
  items : ∀ {done cs rest v} (g : Gap), '\r' ∉ cs → readItems fuel done cs = .ok (v, rest) →
    ∃ items : Items, g.chars ++ cs = items.chars ++ ']' :: rest ∧
      v = .list (done.reverse ++ items.read .plain)
  members : ∀ {done cs rest v} (g : Gap), '\r' ∉ cs → readMembers fuel done cs = .ok (v, rest) →
    ∃ members : Members, g.chars ++ cs = members.chars ++ '\x7d' :: rest ∧
      v = Value.mapOfList (done.reverse ++ members.read .plain)

theorem sound_value {fuel : Nat} (ih : Sound fuel) {cs rest : List Char} {v : Value}
    (hr : '\r' ∉ cs) (h : readValue (fuel + 1) cs = .ok (v, rest)) :
    ∃ t : Tree, cs = t.chars ++ rest ∧ t.read .plain = v := by
  unfold readValue at h
  split at h
  · split at h
    · cases h
    · next hs =>
      obtain ⟨ls, hls, rfl⟩ := exists_string hs
      obtain ⟨rfl, rfl⟩ := Prod.mk.inj (Except.ok.inj h)
      exact ⟨.string ls, hls, rfl⟩
  · next cs =>
    obtain ⟨g, hg⟩ := exists_gap cs (by simp_all)
    split at h
    · next hclose =>
      obtain ⟨rfl, rfl⟩ := Prod.mk.inj (Except.ok.inj h)
      exact ⟨.emptyList g, by rw [hg, hclose]; simp [Tree.chars], rfl⟩
    · obtain ⟨items, hitems, rfl⟩ := ih.items g (by grind) h
      exact ⟨.list items, by rw [hg, hitems]; simp [Tree.chars], rfl⟩
  · next cs =>
    obtain ⟨g, hg⟩ := exists_gap cs (by simp_all)
    split at h
    · next hclose =>
      obtain ⟨rfl, rfl⟩ := Prod.mk.inj (Except.ok.inj h)
      exact ⟨.emptyObject g, by rw [hg, hclose]; simp [Tree.chars], rfl⟩
    · obtain ⟨members, hmembers, rfl⟩ := ih.members g (by grind) h
      exact ⟨.object members, by rw [hg, hmembers]; simp [Tree.chars], rfl⟩
  · obtain ⟨b, rfl, rfl⟩ := exists_bare h
    exact ⟨.bare b, rfl, rfl⟩

theorem sound_items {fuel : Nat} (ih : Sound fuel) {done : List Value} {cs rest : List Char}
    {v : Value} (g : Gap) (hr : '\r' ∉ cs) (h : readItems (fuel + 1) done cs = .ok (v, rest)) :
    ∃ items : Items, g.chars ++ cs = items.chars ++ ']' :: rest ∧
      v = .list (done.reverse ++ items.read .plain) := by
  unfold readItems at h
  split at h
  · cases h
  · next u behind hu =>
    obtain ⟨t, rfl, rfl⟩ := ih.value hr hu
    obtain ⟨after, hafter⟩ := exists_gap behind (by simp_all)
    split at h
    · next hclose =>
      obtain ⟨rfl, rfl⟩ := Prod.mk.inj (Except.ok.inj h)
      refine ⟨.last g t after, ?_, by simp [Items.read]⟩
      rw [hafter, hclose]
      simp [Items.chars]
    · next more hcomma =>
      obtain ⟨before, hbefore⟩ := exists_gap more (by grind)
      obtain ⟨items, hitems, rfl⟩ := ih.items before (by grind) h
      refine ⟨.more g t after items, ?_, by simp [Items.read]⟩
      rw [hafter, hcomma, hbefore, hitems]
      simp [Items.chars]
    · cases h

theorem sound_members {fuel : Nat} (ih : Sound fuel) {done : List (Value × Value)}
    {cs rest : List Char} {v : Value} (g : Gap) (hr : '\r' ∉ cs)
    (h : readMembers (fuel + 1) done cs = .ok (v, rest)) :
    ∃ members : Members, g.chars ++ cs = members.chars ++ '\x7d' :: rest ∧
      v = Value.mapOfList (done.reverse ++ members.read .plain) := by
  unfold readMembers at h
  split at h
  · split at h
    · cases h
    · next opened _ s named hs =>
      obtain ⟨ls, hls, rfl⟩ := exists_string hs
      rw [hls] at hr ⊢
      obtain ⟨gap, hgap⟩ := exists_gap named (by simp_all)
      split at h
      · next colon hcolon =>
        obtain ⟨behind, hbehind⟩ := exists_gap colon (by grind)
        split at h
        · cases h
        · next u valued hu =>
          obtain ⟨t, ht, rfl⟩ := ih.value (by grind) hu
          obtain ⟨after, hafter⟩ := exists_gap valued (by grind)
          have hname : g.chars ++ (ls.quoted ++ named) =
              (Name.mk g ls gap behind).chars ++ t.chars ++ after.chars ++ skipSpace valued := by
            rw [hgap, hcolon, hbehind, ht]
            simp [Name.chars, ← hafter]
          split at h
          · next hclose =>
            obtain ⟨rfl, rfl⟩ := Prod.mk.inj (Except.ok.inj h)
            exact ⟨.last ⟨g, ls, gap, behind⟩ t after, by rw [hname, hclose]; simp [Members.chars],
              by simp [Members.read, Reading.plain]⟩
          · next more hcomma =>
            obtain ⟨before, hbefore⟩ := exists_gap more (by grind)
            obtain ⟨members, hmembers, rfl⟩ := ih.members before (by grind) h
            refine ⟨.more ⟨g, ls, gap, behind⟩ t after members, ?_,
              by simp [Members.read, Reading.plain]⟩
            rw [hname, hcomma, hbefore, hmembers]
            simp [Members.chars]
          · cases h
      · cases h
  · cases h

theorem sound (fuel : Nat) : Sound fuel := by
  induction fuel with
  | zero => exact ⟨fun _ h => (nomatch h), fun _ _ h => (nomatch h), fun _ _ h => (nomatch h)⟩
  | succ fuel ih => exact ⟨sound_value ih, sound_items ih, sound_members ih⟩

/-- A text that the reader accepts is that of a document, and its value what the document says. -/
theorem exists_document {cs : List Char} {v : Value} (hr : '\r' ∉ cs)
    (h : readDocument cs = .ok v) :
    ∃ d : Document, d.chars = cs ∧ d.tree.read .plain = v := by
  unfold readDocument at h
  split at h
  · cases h
  · obtain ⟨before, hbefore⟩ := exists_gap cs hr
    split at h
    · cases h
    · next u behind hu =>
      obtain ⟨t, ht, rfl⟩ := (sound _).value (by grind) hu
      obtain ⟨after, hafter⟩ := exists_gap behind (by grind)
      split at h
      · next hend =>
        refine ⟨⟨before, t, after⟩, ?_, Except.ok.inj h⟩
        rw [hbefore, ht, hafter, hend]
        simp [Document.chars]
      · cases h

end RemoteBindings.Json
