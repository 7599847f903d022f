import RemoteBindings.Yaml.Cursor

/-!
# Block scalars

The lines of a block scalar are those that reach its indentation, which is stated in the header or
found from the first lines (`blockStart`). A literal scalar keeps its line breaks; a folded one
makes a space of a break between two lines that do not begin with a gap. The header also says what
becomes of the breaks at the end (`Chomping`).
-/

namespace RemoteBindings.Yaml

inductive Chomping where
  | clip
  | strip
  | keep
deriving Repr, DecidableEq

structure BlockHeader where
  chomping : Chomping
  /-- The stated indentation, relative to the block around. -/
  increment : Option Nat
deriving Repr, DecidableEq

def chomping? (c : Char) : Option Chomping :=
  if c = '+' then some .keep else if c = '-' then some .strip else none

/-- The digit at a cursor, which must not be zero. -/
def increment? (context : Context) (c : Cursor) : Result (Option Nat) :=
  if c.peek.isDigit then
    if c.peek = '0' then refuse context (.expected .increment .zero) c.toMark
    else .ok (some (c.peek.toNat - 48))
  else .ok none

/-- Reads the indicators of a header, in either order. -/
def scanIndicators (context : Context) (c : Cursor) : Result (BlockHeader × Cursor) :=
  match chomping? c.peek with
  | some chomping =>
    let c := c.advance
    (increment? context c).map fun n => (⟨chomping, n⟩, if n.isSome then c.advance else c)
  | none =>
    (increment? context c).map fun n =>
      if n.isSome then
        let c := c.advance
        match chomping? c.peek with
        | some chomping => (⟨chomping, n⟩, c.advance)
        | none => (⟨.clip, n⟩, c)
      else (⟨.clip, none⟩, c)

/-- Reads a header to the start of the next line. -/
def scanHeader (context : Context) (c : Cursor) : Result (BlockHeader × Cursor) := do
  let (header, c) ← scanIndicators context c
  if c.peek = ' ' ∨ isLineEnd c.peek then return (header, ← c.endLine context)
  else c.expects context .indicators

/-- Passes the first empty lines and gives their breaks and the widest indentation seen. -/
def blockStart : Nat → List Char → Nat → Cursor → List Char × Nat × Cursor
  | 0, done, widest, c => (done.reverse, widest, c)
  | fuel + 1, done, widest, c =>
    if c.peek = ' ' then blockStart fuel done (max widest c.advance.column) c.advance
    else match c.takeBreak? with
      | some (x, c) => blockStart fuel (x :: done) widest c
      | none => (done.reverse, widest, c)

/-- Passes at most the indentation of a line. -/
def passIndent (indent : Nat) (c : Cursor) : Cursor :=
  c.advanceBy (min (indent - c.column) (c.run (· == ' ')).length)

/-- Passes empty lines and the indentation of the line after them, and gives the breaks. -/
def blockBreaks (indent : Nat) : Nat → Cursor → List Char × Cursor
  | 0, c => ([], c)
  | fuel + 1, c =>
    let c := passIndent indent c
    match c.takeBreak? with
    | none => ([], c)
    | some (x, c) =>
      let (breaks, c) := blockBreaks indent fuel c
      (x :: breaks, c)

/-- What a break between two lines becomes, given the breaks of the empty lines after it. -/
def joinLines (isFolded gapBefore gapAfter : Bool) (first : Option Char) (breaks : List Char) :
    List Char :=
  if isFolded && first == some '\n' && !gapBefore && !gapAfter then
    if breaks.isEmpty then [' '] else []
  else first.toList

/-- What remains of the breaks at the end. -/
def chomp (chomping : Chomping) (first : Option Char) (breaks : List Char) : List Char :=
  match chomping with
  | .strip => []
  | .clip => first.toList
  | .keep => first.toList ++ breaks

/-- Reads the lines of a block scalar from a place where its indentation has been passed; `breaks`
are those of the empty lines before. -/
def scanLines (isFolded : Bool) (chomping : Chomping) (indent : Nat) :
    Nat → List Char → Cursor → List Char × Cursor
  | 0, _, c => ([], c)
  | fuel + 1, breaks, c =>
    let line := c.run fun x => !isBreak x
    let atEnd := c.advanceBy line.length
    let (first, c') := match atEnd.takeBreak? with
      | some (x, next) => (some x, next)
      | none => (none, atEnd)
    let (after, c') := blockBreaks indent (c'.rest.length + 1) c'
    if c'.column = indent ∧ !c'.rest.isEmpty then
      let (text, last) := scanLines isFolded chomping indent fuel after c'
      let joint := joinLines isFolded (isGap c.peek) (isGap c'.peek) first after
      (breaks ++ line ++ joint ++ text, last)
    else (breaks ++ line ++ chomp chomping first after, c')

/-- Reads a block scalar from its indicator on; `outer` is the indentation of the block around. -/
def scanBlock (isFolded : Bool) (outer : Int) (c : Cursor) : Result (List Char × Cursor) := do
  let (header, c) ← scanHeader (.reading .scanning .blockScalar c.toMark) c.advance
  let least := (max (outer + 1) 1).toNat
  let (breaks, indent, c) := match header.increment with
    | none =>
      let (breaks, widest, c) := blockStart (c.rest.length + 1) [] 0 c
      (breaks, max least widest, c)
    | some n =>
      let indent := least + n - 1
      let (breaks, c) := blockBreaks indent (c.rest.length + 1) c
      (breaks, indent, c)
  if c.column = indent ∧ !c.rest.isEmpty then
    return scanLines isFolded header.chomping indent (c.rest.length + 1) breaks c
  else return (chomp header.chomping none breaks, c)

end RemoteBindings.Yaml
