import RemoteBindings.Entries
import RemoteBindings.Yaml.BlockScalar
import RemoteBindings.Yaml.FlowScalar
import RemoteBindings.Yaml.Lexeme
import RemoteBindings.Yaml.Property

/-!
# From text to tokens

`Lexer.step` reads the next token. That a token begins a key shows only at the colon behind it, so
the lexer remembers on each level of flow collections where a key may have begun (`Candidate`) and
puts the `key` token there afterwards. A candidate ends with its line and after 1024 characters;
one that stands at the indentation of a block has to become a key. Tokens behind an open candidate
are not certain (`Lexer.settled`).
-/

namespace RemoteBindings.Yaml

variable [Text.LoneSurrogate]

/-- A place where a key may have begun. -/
structure Candidate where
  /-- The number of tokens before it. -/
  position : Nat
  required : Bool
  place : Mark
deriving Repr, DecidableEq

structure Lexer where
  cursor : Cursor
  /-- The tokens so far, last first. -/
  lexemes : List Lexeme := []
  /-- The column of the current block; -1 outside all blocks. -/
  indent : Int := -1
  /-- The columns of the blocks around it. -/
  outer : List Int := []
  /-- The number of flow collections that are open. -/
  depth : Nat := 0
  allowsKey : Bool := true
  /-- The candidates by flow level. -/
  candidates : Entries Nat Candidate := []

namespace Lexer

def inFlow (l : Lexer) : Bool := l.depth != 0

def place (l : Lexer) : Mark := l.cursor.toMark

def moveTo (l : Lexer) (c : Cursor) : Lexer := { l with cursor := c }

/-- Adds a token that takes no characters. -/
def emit (l : Lexer) (t : Token) : Lexer :=
  { l with lexemes := ⟨t, l.place, l.place⟩ :: l.lexemes }

/-- Adds a token from the cursor up to another place. -/
def emitTo (l : Lexer) (t : Token) (c : Cursor) : Lexer :=
  { l with lexemes := ⟨t, l.place, c.toMark⟩ :: l.lexemes, cursor := c }

/-- Adds a token of one character. -/
def emitChar (l : Lexer) (t : Token) : Lexer := l.emitTo t l.cursor.advance

def allowKey (l : Lexer) (b : Bool) : Lexer := { l with allowsKey := b }

/-- Puts a token behind the first `position` tokens. -/
def insert (l : Lexer) (position : Nat) (t : Lexeme) : Lexer :=
  let later := l.lexemes.length - position
  { l with lexemes := l.lexemes.take later ++ t :: l.lexemes.drop later }

/-- Passes gaps, comments and line breaks. Behind a break outside flow collections a key may
begin. -/
def skipToToken : Nat → Lexer → Lexer
  | 0, l => l
  | fuel + 1, l =>
    let c := l.cursor.skipSpaces
    let c := if c.peek == '#' then c.skip fun x => !isBreak x else c
    match c.takeBreak? with
    | none => l.moveTo c
    | some (_, next) =>
      skipToToken fuel { l with cursor := next, allowsKey := l.allowsKey || !l.inFlow }

/-- A mark of the byte order counts only at the start of the text. -/
def skipOrderMark (l : Lexer) : Lexer :=
  if l.cursor.index = 0 ∧ l.cursor.peek = byteOrderMark then l.moveTo l.cursor.advance else l

/-- A required key has not been found up to the cursor. -/
def missKey {α : Type} (l : Lexer) (k : Candidate) : Result α :=
  refuse (.reading .scanning .simpleKey k.place) .noColon l.place

def isStale (l : Lexer) (k : Candidate) : Bool :=
  k.place.line != l.place.line || 1024 < l.place.index - k.place.index

/-- Gives up the candidates that lie too far back. -/
def dropStale (l : Lexer) : Result Lexer :=
  match l.candidates.values.find? fun k => l.isStale k && k.required with
  | some k => l.missKey k
  | none => .ok { l with candidates := l.candidates.filter fun e => !l.isStale e.2 }

/-- Closes the blocks that are indented deeper than a column. -/
def unwind (column : Int) : List Int → Lexer → Lexer
  | [], l => l
  | indent :: outer, l =>
    if !l.inFlow && column < l.indent then
      unwind column outer ({ l with indent, outer }.emit .blockEnd)
    else l

def closeBlocks (l : Lexer) (column : Int) : Lexer := unwind column l.outer l

/-- Makes a deeper column the current block; whether it was deeper. -/
def openBlock (l : Lexer) (column : Nat) : Lexer × Bool :=
  if l.indent < column then ({ l with indent := column, outer := l.indent :: l.outer }, true)
  else (l, false)

/-- Forgets the candidate of the current level. -/
def dropCandidate (l : Lexer) : Result Lexer :=
  match Entries.find? l.depth l.candidates with
  | none => .ok l
  | some k =>
    if k.required then l.missKey k
    else .ok { l with candidates := Entries.erase l.depth l.candidates }

/-- Remembers that a key may begin at the cursor. -/
def saveCandidate (l : Lexer) : Result Lexer :=
  if l.allowsKey then
    l.dropCandidate.map fun l =>
      let k : Candidate :=
        { position := l.lexemes.length
          required := !l.inFlow && l.indent == l.cursor.column
          place := l.place }
      { l with candidates := Entries.put l.depth k l.candidates }
  else .ok l

/-- Reads a directive or a document mark, which close everything. -/
def takeOutside (l : Lexer) (read : Cursor → Result (Token × Cursor)) : Result Lexer := do
  let l ← (l.closeBlocks (-1)).dropCandidate
  let (t, c) ← read l.cursor
  return (l.emitTo t c).allowKey false

def takeMark (t : Token) (width : Nat) (c : Cursor) : Result (Token × Cursor) :=
  .ok (t, c.advanceBy width)

/-- Opens a flow collection. -/
def takeOpening (l : Lexer) (t : Token) : Result Lexer := do
  let l ← l.saveCandidate
  return { l.emitChar t with depth := l.depth + 1, allowsKey := true }

/-- Closes a flow collection. Where none is open the token is out of place. -/
def takeClosing (l : Lexer) (t : Token) : Result Lexer := do
  let l ← l.dropCandidate
  return { l.emitChar t with depth := l.depth - 1, allowsKey := false }

def takeComma (l : Lexer) : Result Lexer := do
  let l ← l.dropCandidate
  return (l.emitChar .flowComma).allowKey true

/-- Outside flow collections, an item, a marked key or a value may only begin where a key may; a
deeper one opens a block. -/
def startBlock (l : Lexer) (t start : Token) : Result Lexer :=
  if l.inFlow then .ok l
  else if l.allowsKey then
    let (l, deeper) := l.openBlock l.cursor.column
    .ok (if deeper then l.emit start else l)
  else refuse .none (.misplaced t) l.place

def takeItem (l : Lexer) : Result Lexer := do
  let l ← l.startBlock .blockItem .blockSequenceStart
  let l ← l.dropCandidate
  return (l.emitChar .blockItem).allowKey true

def takeKey (l : Lexer) : Result Lexer := do
  let l ← l.startBlock .key .blockMappingStart
  let l ← l.dropCandidate
  return (l.emitChar .key).allowKey (!l.inFlow)

/-- Turns the candidate of the current level into a key. -/
def confirm (l : Lexer) (k : Candidate) : Lexer :=
  let put (l : Lexer) (t : Token) : Lexer := l.insert k.position ⟨t, k.place, k.place⟩
  let l := put { l with candidates := Entries.erase l.depth l.candidates } .key
  if l.inFlow then l
  else
    let (l, deeper) := l.openBlock k.place.column
    if deeper then put l .blockMappingStart else l

def takeValue (l : Lexer) : Result Lexer :=
  match Entries.find? l.depth l.candidates with
  | some k => .ok (((l.confirm k).emitChar .value).allowKey false)
  | none => do
    let l ← l.startBlock .value .blockMappingStart
    let l ← (l.allowKey (!l.inFlow)).dropCandidate
    return l.emitChar .value

/-- Reads a token that may be a key or belong to one. -/
def takeProperty (l : Lexer) (read : Cursor → Result (Token × Cursor)) : Result Lexer := do
  let l ← l.saveCandidate
  let (t, c) ← read l.cursor
  return (l.emitTo t c).allowKey false

def readAlias (c : Cursor) : Result (Token × Cursor) :=
  (scanAnchor .alias c).map fun (name, c) => (.alias name, c)

def readAnchor (c : Cursor) : Result (Token × Cursor) :=
  (scanAnchor .anchor c).map fun (name, c) => (.anchor name, c)

def readTag (c : Cursor) : Result (Token × Cursor) :=
  (scanTag c).map fun (t, c) => (.tag t, c)

def readQuoted (quote : Quote) (c : Cursor) : Result (Token × Cursor) :=
  (scanQuoted c.toMark quote (c.rest.length + 1) c.advance).map fun (text, c) =>
    (.scalar (String.ofList text) false, c)

def readDirective (c : Cursor) : Result (Token × Cursor) :=
  (scanDirective c).map fun (d, c) => (.directive d, c)

def takeBlockScalar (l : Lexer) (isFolded : Bool) : Result Lexer := do
  let l ← l.dropCandidate
  let (text, c) ← scanBlock isFolded l.indent l.cursor
  return (l.emitTo (.scalar (String.ofList text) false) c).allowKey true

/-- Reads a plain scalar; if it ends with its line, a key may begin behind it. -/
def takePlain (l : Lexer) : Result Lexer := do
  let l ← l.saveCandidate
  let scan := scanPlain l.inFlow (l.indent + 1) (l.cursor.rest.length + 1) l.cursor
  return (l.emitTo (.scalar (String.ofList scan.text) true) scan.cursor).allowKey scan.crosses

/-- Characters that begin no plain scalar, unless one of the first three is followed by another
character. -/
def indicators : List Char := "-?:,[]\x7b\x7d#&*!|>'\"%@\x60".toList

def startsPlain (l : Lexer) : Bool :=
  let x := l.cursor.peek
  (!separates x && !indicators.contains x) ||
    (!separates (l.cursor.peekAt 1) && (x == '-' || (!l.inFlow && (x == '?' || x == ':'))))

/-- Whether the character behind an indicator lets it stand for itself. -/
def standsAlone (l : Lexer) : Bool := separates (l.cursor.peekAt 1)

/-- Reads the token at the cursor, which is not at the end. -/
def take (l : Lexer) : Result Lexer :=
  let c := l.cursor
  let x := c.peek
  if x = '%' ∧ c.column = 0 then l.takeOutside readDirective
  else if c.column = 0 ∧ c.atMark '-' then l.takeOutside (takeMark .documentStart 3)
  else if c.column = 0 ∧ c.atMark '.' then l.takeOutside (takeMark .documentEnd 3)
  else if x = '[' then l.takeOpening .flowSequenceStart
  else if x = '\x7b' then l.takeOpening .flowMappingStart
  else if x = ']' then l.takeClosing .flowSequenceEnd
  else if x = '\x7d' then l.takeClosing .flowMappingEnd
  else if x = ',' then l.takeComma
  else if x = '-' ∧ l.standsAlone then l.takeItem
  else if x = '?' ∧ (l.inFlow ∨ l.standsAlone) then l.takeKey
  else if x = ':' ∧ (l.inFlow ∨ l.standsAlone) then l.takeValue
  else if x = '*' then l.takeProperty readAlias
  else if x = '&' then l.takeProperty readAnchor
  else if x = '!' then l.takeProperty readTag
  else if x = '|' ∧ !l.inFlow then l.takeBlockScalar false
  else if x = '>' ∧ !l.inFlow then l.takeBlockScalar true
  else if x = '\'' then l.takeProperty (readQuoted .single)
  else if x = '"' then l.takeProperty (readQuoted .double)
  else if l.startsPlain then l.takePlain
  else refuse .nextToken (.noToken x) l.place

/-- Passes to the next token and closes the blocks that end before it. -/
def approach (l : Lexer) : Result Lexer := do
  let l ← (skipToToken (l.cursor.rest.length + 1) l.skipOrderMark).dropStale
  return l.closeBlocks l.cursor.column

/-- The tokens that are certain: a candidate that is still open may put one before its place. -/
def settled (l : Lexer) : List Lexeme :=
  let places := l.candidates.values.map Candidate.position
  l.lexemes.reverse.take (places.foldl min l.lexemes.length)

/-- The tokens where the text cannot be read any further. -/
def stopped (l : Lexer) (p : Problem) : Lexemes := ⟨l.settled, .broken p⟩

/-- Reads all tokens, up to the first problem if there is one. Candidates are given up as soon as a
token ends too far behind them. Every step passes a character, so the length of the text bounds the
steps. -/
def run : Nat → Lexer → Lexemes
  | 0, l => l.stopped .outOfFuel
  | fuel + 1, l =>
    match l.approach with
    | .error e => l.stopped e
    | .ok next =>
      if next.cursor.rest.isEmpty then
        match (next.closeBlocks (-1)).dropCandidate with
        | .error e => l.stopped e
        | .ok next => ⟨next.lexemes.reverse, .complete next.place⟩
      else match next.take >>= dropStale with
        | .error e => l.stopped e
        | .ok next => run fuel next

end Lexer

/-- The characters that a text may hold. -/
def isAllowed (c : Char) : Bool :=
  let n := c.toNat
  n == 0x09 || n == 0x0A || n == 0x0D || (0x20 ≤ n && n ≤ 0x7E) || n == 0x85 ||
    (0xA0 ≤ n && n ≤ 0xD7FF) || (0xE000 ≤ n && n ≤ 0xFFFD) || 0x10000 ≤ n

/-- The tokens of a text, which may not hold certain characters anywhere. -/
def Lexemes.ofText (text : String) : Lexemes :=
  let cs := text.toList
  match cs.dropWhile isAllowed with
  | [] => Lexer.run (cs.length + 1) { cursor := { rest := cs } }
  | c :: _ => ⟨[], .broken (.forbidden c (cs.takeWhile isAllowed).length)⟩

end RemoteBindings.Yaml
