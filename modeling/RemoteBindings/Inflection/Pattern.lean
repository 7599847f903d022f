import RemoteBindings.Text.WordChar

/-!
# Patterns of word endings

A `Pattern` describes a piece of a word, ignoring case. `Pattern.run` lists the places where a
piece that starts at a given place may end, the preferred one first, and `Pattern.find?` gives the
leftmost piece of a word.
-/

namespace RemoteBindings.Inflection

/-- The lower case of a letter, for comparison only: the Kelvin sign is a k, the dotted and the
dotless i are an i, and the long s is an s. -/
def fold (c : Char) : Char :=
  if c = '\u212A' then 'k'
  else if c = 'İ' ∨ c = 'ı' then 'i'
  else if c = 'ſ' then 's'
  else if c = 'É' then 'é'
  else c.toLower

inductive Pattern where
  /-- Letters one after the other. -/
  | letters (cs : List Char)
  | oneOf (cs : List Char)
  | noneOf (cs : List Char)
  | beyondAscii
  | seq (p q : Pattern)
  | alt (p q : Pattern)
  | optional (p : Pattern)
  /-- The numbered part that a replacement may repeat. -/
  | part (n : Nat) (p : Pattern)
  | start
  | wordStart
  /-- The end of the word, or its final line feed. -/
  | finish

/-- A place in a word: the characters before it, nearest first, those after it, and the numbered
parts found so far. -/
structure Place where
  before : List Char
  after : List Char
  parts : List (Nat × List Char)

/-- Steps over one character that passes the test. -/
def Place.step (test : Char → Bool) (s : Place) : List Place :=
  match s.after with
  | [] => []
  | c :: cs => if test (fold c) then [{ s with before := c :: s.before, after := cs }] else []

def Place.letters : List Char → Place → List Place
  | [], s => [s]
  | c :: cs, s => (s.step (· == c)).flatMap (Place.letters cs)

/-- The characters between an earlier place of the same word and this one. -/
def Place.since (s earlier : Place) : List Char :=
  earlier.after.take (earlier.after.length - s.after.length)

def Place.atWordStart (s : Place) : Bool :=
  (match s.before with | [] => false | c :: _ => Text.isWordChar c) !=
    (match s.after with | [] => false | c :: _ => Text.isWordChar c)

def Pattern.run : Pattern → Place → List Place
  | letters cs, s => s.letters cs
  | oneOf cs, s => s.step cs.contains
  | noneOf cs, s => s.step fun c => !cs.contains c
  | beyondAscii, s => s.step fun c => 0x7F < c.toNat
  | seq p q, s => (p.run s).flatMap q.run
  | alt p q, s => p.run s ++ q.run s
  | optional p, s => p.run s ++ [s]
  | part n p, s => (p.run s).map fun t => { t with parts := (n, t.since s) :: t.parts }
  | start, s => if s.before.isEmpty then [s] else []
  | wordStart, s => if s.atWordStart then [s] else []
  | finish, s => if s.after.isEmpty || s.after == ['\n'] then [s] else []

/-- The first piece at or after a place: where it starts and where it ends. -/
def Pattern.findFrom? (p : Pattern) (before : List Char) : List Char → Option (Place × Place)
  | [] => (p.run ⟨before, [], []⟩).head?.map (⟨before, [], []⟩, ·)
  | c :: cs =>
    match p.run ⟨before, c :: cs, []⟩ with
    | t :: _ => some (⟨before, c :: cs, []⟩, t)
    | [] => p.findFrom? (c :: before) cs

def Pattern.find? (p : Pattern) (word : List Char) : Option (Place × Place) := p.findFrom? [] word

end RemoteBindings.Inflection
