import RemoteBindings.Decimal.Notation
import RemoteBindings.Text.Digits
import RemoteBindings.Yaml.Cursor

/-!
# Directives, anchors and tags

What stands before the content of a document or of a node: directives on lines of their own, the
names of anchors and aliases, and tags, whose characters may be given by their bytes (`%C3%A9`).
-/

namespace RemoteBindings.Yaml

def isNameChar (c : Char) : Bool := c.isAlphanum || c == '-' || c == '_'

def uriMarks : List Char := "-;/?:@&=+$,_.!~*'()[]".toList

def isUriChar (c : Char) : Bool := c.isAlphanum || uriMarks.contains c

def endsWord (c : Char) : Bool := c == ' ' || isLineEnd c

/-- The bytes that the escapes at the cursor stand for. -/
def scanBytes (context : Context) : Nat → Cursor → Result (List UInt8 × Cursor)
  | 0, c => .ok ([], c)
  | fuel + 1, c =>
    if c.peek = '%' then
      let c := c.advance
      let digits := (c.rest.take 2).takeWhile Text.isHexDigit
      if digits.length = 2 then
        (scanBytes context fuel (c.advanceBy 2)).map fun (bytes, c) =>
          (UInt8.ofNat (Text.digitsValue 16 digits) :: bytes, c)
      else
        refuse context (.expected .byteDigits (.character (c.peekAt digits.length))) c.toMark
    else .ok ([], c)

def scanEscapedText (context : Context) (c : Cursor) : Result (String × Cursor) := do
  let (bytes, next) ← scanBytes context c.rest.length c
  match String.fromUTF8? ⟨bytes.toArray⟩ with
  | some text => return (text, next)
  | none => refuse context (.noText bytes) c.toMark

/-- The characters of a tag at the cursor. -/
def uriText (context : Context) : Nat → Cursor → Result (String × Cursor)
  | 0, c => .ok ("", c)
  | fuel + 1, c => do
    let part := String.ofList (c.run isUriChar)
    let c := c.skip isUriChar
    if c.peek = '%' then
      let (escaped, c) ← scanEscapedText context c
      let (text, c) ← uriText context fuel c
      return (part ++ escaped ++ text, c)
    else return (part, c)

/-- Reads the characters of a tag, in a tag or a directive; there must be one. -/
def scanUri (subject : Subject) (start : Mark) (c : Cursor) : Result (String × Cursor) := do
  let (text, next) ← uriText (.reading .scanning subject start) (c.rest.length + 1) c
  if text = "" then c.expects (.reading .parsing subject start) .uri else return (text, next)

/-- Reads the handle of a tag: an exclamation mark, or a name between two. -/
def scanHandle (context : Context) (c : Cursor) : Result (String × Cursor) :=
  if c.peek = '!' then
    let name := c.advance.run isNameChar
    let after := c.advance.skip isNameChar
    if after.peek = '!' then .ok (String.ofList ('!' :: name ++ ['!']), after.advance)
    else if c.peekAt 1 = ' ' then .ok ("!", c.advance)
    else after.expects context (.character '!')
  else c.expects context (.character '!')

/-- Whether the text up to the end of the word holds a second exclamation mark. -/
def hasHandle (c : Cursor) : Bool := (c.run fun x => !endsWord x).contains '!'

/-- Reads a tag from its exclamation mark on. -/
def scanTag (c : Cursor) : Result (TagName × Cursor) := do
  let start := c.toMark
  let context := Context.reading .scanning .tag start
  let behind := c.advance
  let (tag, c) ←
    if behind.peek = '<' then do
      let (suffix, c) ← scanUri .tag start behind.advance
      if c.peek = '>' then pure (TagName.mk none suffix, c.advance)
      else c.expects (.reading .parsing .tag start) (.character '>')
    else if separates behind.peek then pure (TagName.mk none "!", behind)
    else if hasHandle behind then do
      let (handle, c) ← scanHandle context c
      let (suffix, c) ← scanUri .tag start c
      pure (TagName.mk (some handle) suffix, c)
    else do
      let (suffix, c) ← scanUri .tag start behind
      pure (TagName.mk (some "!") suffix, c)
  if endsWord c.peek then return (tag, c) else c.expects context (.character ' ')

/-- What may follow the name of an anchor. -/
def endsAnchor (c : Char) : Bool :=
  separates c || ['?', ':', ',', ']', '\x7d', '%', '@', '\x60'].contains c

/-- Reads the name of an anchor or an alias from its indicator on. -/
def scanAnchor (subject : Subject) (c : Cursor) : Result (String × Cursor) :=
  let context := Context.reading .scanning subject c.toMark
  let name := c.advance.run isNameChar
  let next := c.advance.skip isNameChar
  if name.isEmpty || !endsAnchor next.peek then next.expects context .nameCharacter
  else .ok (String.ofList name, next)

/-- Reads a number of a version. -/
def scanNumber (context : Context) (c : Cursor) : Result (Nat × Cursor) :=
  match c.run Char.isDigit with
  | [] => c.expects context .digit
  | ds =>
    if Decimal.maxDigits < ds.length then .error .badValue
    else .ok (Text.digitsValue 10 ds, c.skip Char.isDigit)

def scanVersion (context : Context) (c : Cursor) : Result (Directive × Cursor) := do
  let (major, c) ← scanNumber context c.skipSpaces
  if c.peek ≠ '.' then c.expects context (.digitOr '.')
  let (minor, c) ← scanNumber context c.advance
  if endsWord c.peek then return (.version major minor, c) else c.expects context (.digitOr ' ')

def scanTagDirective (start : Mark) (c : Cursor) : Result (Directive × Cursor) := do
  let context := Context.reading .scanning .directive start
  let (handle, c) ← scanHandle context c.skipSpaces
  if c.peek ≠ ' ' then c.expects context (.character ' ')
  let (uri, c) ← scanUri .directive start c.skipSpaces
  if endsWord c.peek then return (.tag handle uri, c) else c.expects context (.character ' ')

/-- Reads a directive from its percent sign on, to the start of the next line. -/
def scanDirective (c : Cursor) : Result (Directive × Cursor) := do
  let start := c.toMark
  let context := Context.reading .scanning .directive start
  let name := c.advance.run isNameChar
  let c := c.advance.skip isNameChar
  if name.isEmpty || !endsWord c.peek then c.expects context .nameCharacter
  let (d, c) ←
    if name = "YAML".toList then scanVersion context c
    else if name = "TAG".toList then scanTagDirective start c
    else pure (.other, c.skip fun x => !isBreak x)
  return (d, ← c.endLine context)

end RemoteBindings.Yaml
