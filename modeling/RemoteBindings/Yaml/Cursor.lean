import RemoteBindings.Yaml.Problem

/-!
# A place in a YAML text

A `Cursor` is what is left of a text together with the place of the next character. Beyond the end
it shows `endMark`, which no text may hold.
-/

namespace RemoteBindings.Yaml

def isGap (c : Char) : Bool := c == ' ' || c == '\t'

/-- What may follow an indicator: a gap or the end of the line. -/
def separates (c : Char) : Bool := isGap c || isLineEnd c

def byteOrderMark : Char := '\uFEFF'

structure Cursor extends Mark where
  rest : List Char
deriving Repr, DecidableEq

namespace Cursor

def peek (c : Cursor) : Char := c.rest.headD endMark

def peekAt (c : Cursor) (n : Nat) : Char := (c.rest.drop n).headD endMark

/-- The cursor behind a character. -/
def behind (c : Cursor) (passed : Char) (rest : List Char) : Cursor :=
  if isBreak passed then { rest, index := c.index + 1, line := c.line + 1, column := 0 }
  else
    { rest, index := c.index + 1, line := c.line
      column := if passed = byteOrderMark then c.column else c.column + 1 }

def advance (c : Cursor) : Cursor :=
  match c.rest with
  | [] => c
  | x :: rest => c.behind x rest

def advanceBy : Nat → Cursor → Cursor
  | 0, c => c
  | n + 1, c => advanceBy n c.advance

/-- The characters up to the first that does not satisfy `p`. -/
def run (c : Cursor) (p : Char → Bool) : List Char := c.rest.takeWhile p

def skip (c : Cursor) (p : Char → Bool) : Cursor := c.advanceBy (c.run p).length

def skipSpaces (c : Cursor) : Cursor := c.skip (· == ' ')

/-- The text of a line break: the separators of lines and paragraphs stand for themselves. -/
def breakText (c : Char) : Char := if c = '\u2028' ∨ c = '\u2029' then c else '\n'

/-- Something else belongs at the cursor than its character. -/
def expects {α : Type} (c : Cursor) (context : Context) (what : Expected) : Result α :=
  refuse context (.expected what (.character c.peek)) c.toMark

/-- A line break at the cursor, and the cursor behind it. -/
def takeBreak? (c : Cursor) : Option (Char × Cursor) :=
  if isBreak c.peek then some (breakText c.peek, c.advance) else none

/-- Passes spaces and a comment to the next line; nothing else may stand before it. -/
def endLine (context : Context) (c : Cursor) : Result Cursor :=
  let c := c.skipSpaces
  let c := if c.peek == '#' then c.skip fun x => !isBreak x else c
  if isLineEnd c.peek then .ok c.advance else c.expects context .lineEnd

/-- Whether the cursor is at a mark of three equal characters that stands alone. -/
def atMark (c : Cursor) (mark : Char) : Bool :=
  c.rest.take 3 == [mark, mark, mark] && separates (c.peekAt 3)

/-- Whether a document begins or ends at the cursor, if it is at the start of a line. -/
def atDocumentMark (c : Cursor) : Bool := c.atMark '-' || c.atMark '.'

end Cursor

end RemoteBindings.Yaml
