import RemoteBindings.Text.Digits
import RemoteBindings.Yaml.Cursor

/-!
# Plain and quoted scalars

Scalars that may run over several lines: a single line break between two lines is a space, and
further ones stay (`folded`). `scanPlain` ends where the indentation or an indicator ends it,
`scanQuoted` at the closing quote.
-/

namespace RemoteBindings.Yaml

open Text (LoneSurrogate)

variable [LoneSurrogate]

/-- The text for a line break and the breaks of the empty lines behind it. -/
def folded (first : Char) (breaks : List Char) : List Char :=
  if first ≠ '\n' then first :: breaks
  else if breaks.isEmpty then [' ']
  else breaks

/-! ## Plain scalars -/

/-- Whether a plain scalar ends before `c`, given the character after it. -/
def endsPlain (inFlow : Bool) (c next : Char) : Bool :=
  separates c ||
    (c == ':' && (separates next || (inFlow && [',', '[', ']', '\x7b', '\x7d'].contains next))) ||
    (inFlow && [',', '?', '[', ']', '\x7b', '\x7d'].contains c)

/-- The part of a plain scalar up to the next gap. -/
def plainRun (inFlow : Bool) : List Char → List Char
  | [] => []
  | c :: cs => if endsPlain inFlow c (cs.headD endMark) then [] else c :: plainRun inFlow cs

/-- Passes empty lines and the indentation of the line after them; no value if a document begins or
ends on the way. -/
def plainBreaks : Nat → List Char → Cursor → Option (List Char) × Cursor
  | 0, done, c => (some done.reverse, c)
  | fuel + 1, done, c =>
    if c.peek == ' ' then plainBreaks fuel done c.advance
    else match c.takeBreak? with
      | none => (some done.reverse, c)
      | some (x, c) =>
        if c.atDocumentMark then (none, c) else plainBreaks fuel (x :: done) c

/-- The gap after a part of a plain scalar: its text, whether it crosses a line, what follows. -/
structure PlainGap where
  text : List Char
  crosses : Bool
  cursor : Cursor

def plainGap (c : Cursor) : PlainGap :=
  let spaces := c.run (· == ' ')
  let c := c.skipSpaces
  match c.takeBreak? with
  | none => ⟨spaces, false, c⟩
  | some (first, c) =>
    if c.atDocumentMark then ⟨[], true, c⟩
    else match plainBreaks c.rest.length [] c with
      | (none, c) => ⟨[], true, c⟩
      | (some breaks, c) => ⟨folded first breaks, true, c⟩

/-- Reads a plain scalar that goes on at least to the column `indent`. The gap after its end is
passed too. -/
def scanPlain (inFlow : Bool) (indent : Int) : Nat → Cursor → PlainGap
  | 0, c => ⟨[], false, c⟩
  | fuel + 1, c =>
    let part := plainRun inFlow c.rest
    let gap := plainGap (c.advanceBy part.length)
    let next := gap.cursor
    if gap.text.isEmpty || next.peek == '#' || (!inFlow && next.column < indent) ||
        (plainRun inFlow next.rest).isEmpty then
      { gap with text := part }
    else
      let more := scanPlain inFlow indent fuel next
      { more with text := part ++ gap.text ++ more.text }

/-! ## Quoted scalars -/

inductive Quote where
  | single
  | double
deriving Repr, DecidableEq

def Quote.mark : Quote → Char
  | single => '\''
  | double => '"'

/-- The character of a one-letter escape. -/
def escaped? : Char → Option Char
  | '0' => some '\x00'
  | 'a' => some '\x07'
  | 'b' => some '\x08'
  | 't' => some '\t'
  | '\t' => some '\t'
  | 'n' => some '\n'
  | 'v' => some '\x0b'
  | 'f' => some '\x0c'
  | 'r' => some '\r'
  | 'e' => some '\x1b'
  | ' ' => some ' '
  | '"' => some '"'
  | '\\' => some '\\'
  | '/' => some '/'
  | 'N' => some '\u0085'
  | '_' => some '\u00A0'
  | 'L' => some '\u2028'
  | 'P' => some '\u2029'
  | _ => none

/-- The number of digits after the letter of a code escape. -/
def codeWidth? : Char → Option Nat
  | 'x' => some 2
  | 'u' => some 4
  | 'U' => some 8
  | _ => none

/-- The character of a code. -/
def characterOf (code : Nat) : Result Char :=
  if 0x7FFFFFFF < code then .error .outOfRange
  else if 0x10FFFF < code then .error .badValue
  else if 0xD800 ≤ code ∧ code < 0xE000 then .ok LoneSurrogate.standIn
  else .ok (Char.ofNat code)

/-- The quoted scalar around a place, for a problem with an escape in it. -/
def inEscape (start : Mark) : Context := .reading .scanning .doubleQuotedScalar start

def inQuotes (start : Mark) : Context := .reading .scanning .quotedScalar start

/-- A character given by hexadecimal digits at the cursor. -/
def scanCode (start : Mark) (width : Nat) (c : Cursor) : Result (Char × Cursor) :=
  let digits := (c.rest.take width).takeWhile Text.isHexDigit
  if digits.length = width then
    (characterOf (Text.digitsValue 16 digits)).map fun x => (x, c.advanceBy width)
  else
    let found := Found.character (c.peekAt digits.length)
    refuse (inEscape start) (.expected (.codeDigits width) found) c.toMark

/-- Passes gaps and the line breaks between them, and gives the breaks. -/
def quotedBreaks (start : Mark) : Nat → Cursor → Result (List Char × Cursor)
  | 0, c => .ok ([], c)
  | fuel + 1, c =>
    if c.atDocumentMark then refuse (inQuotes start) .documentMark c.toMark
    else
      let c := c.skip isGap
      match c.takeBreak? with
      | none => .ok ([], c)
      | some (x, c) => (quotedBreaks start fuel c).map fun (breaks, c) => (x :: breaks, c)

/-- The text for the gap at the cursor, which may cross lines. -/
def quotedGap (start : Mark) (c : Cursor) : Result (List Char × Cursor) :=
  let spaces := c.run isGap
  let c := c.skip isGap
  match c.takeBreak? with
  | some (first, c) =>
    (quotedBreaks start (c.rest.length + 1) c).map fun (breaks, c) => (folded first breaks, c)
  | none =>
    if c.rest.isEmpty then refuse (inQuotes start) .endOfText c.toMark else .ok (spaces, c)

/-- The text for an escape, whose backslash has been passed. -/
def scanEscape (start : Mark) (c : Cursor) : Result (List Char × Cursor) :=
  match escaped? c.peek with
  | some x => .ok ([x], c.advance)
  | none => match codeWidth? c.peek with
    | some width => (scanCode start width c.advance).map fun (x, c) => ([x], c)
    | none => match c.takeBreak? with
      | some (_, c) => quotedBreaks start (c.rest.length + 1) c
      | none => refuse (inEscape start) (.unknownEscape c.peek) c.toMark

/-- The text for what is at the cursor inside quotes; no value at the closing quote. -/
def quotedPart (start : Mark) (quote : Quote) (c : Cursor) :
    Result (Option (List Char) × Cursor) :=
  if c.rest.isEmpty then refuse (inQuotes start) .endOfText c.toMark
  else if quote = .single ∧ c.rest.take 2 = ['\'', '\''] then .ok (some ['\''], c.advanceBy 2)
  else if c.peek = quote.mark then .ok (none, c.advance)
  else if quote = .double ∧ c.peek = '\\' then
    (scanEscape start c.advance).map fun (text, c) => (some text, c)
  else if separates c.peek then (quotedGap start c).map fun (text, c) => (some text, c)
  else .ok (some [c.peek], c.advance)

/-- Reads the rest of a quoted scalar, behind the opening quote at `start`. -/
def scanQuoted (start : Mark) (quote : Quote) : Nat → Cursor → Result (List Char × Cursor)
  | 0, _ => .error .outOfFuel
  | fuel + 1, c =>
    match quotedPart start quote c with
    | .error e => .error e
    | .ok (none, c) => .ok ([], c)
    | .ok (some part, c) =>
      (scanQuoted start quote fuel c).map fun (text, c) => (part ++ text, c)

end RemoteBindings.Yaml
