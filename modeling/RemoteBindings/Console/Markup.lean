import RemoteBindings.Console.Emoji
import RemoteBindings.Console.Literal.Basic
import RemoteBindings.Console.MarkedText
import RemoteBindings.Console.Style
import RemoteBindings.Text.WordChar

/-!
# Console markup

Text for the console may hold tags in brackets, which style what they enclose: `[bold]x[/bold]`, or
`[/]` for the last one. `markedText` gives the text without them, and the stretches that they
enclose. A bracket begins a tag only before a small letter or one of three marks; a backslash keeps
it as it is. A closing tag needs an open one of its style. A tag such as `[@click=f(1)]` stands for
an action, whose parameters are a literal. Names of pictures outside of tags become pictures.
-/

namespace RemoteBindings.Console

/-- Why a text cannot be shown. -/
inductive MarkupFault where
  /-- A closing tag for which no tag is open. -/
  | nothingToClose
  /-- An action whose parameters are no literal. -/
  | notLiteral
  /-- A color of which a component is no number. -/
  | noNumber
deriving Repr, DecidableEq

/-! ## Pieces -/

/-- A tag: its name, and what follows an equals sign. -/
structure Tag where
  name : List Char
  parameters : Option (List Char)
deriving Repr, DecidableEq

inductive Piece where
  | text (cs : List Char)
  | tag (t : Tag)
deriving Repr, DecidableEq

def startsTag (c : Char) : Bool := ('a' ≤ c && c ≤ 'z') || c == '#' || c == '/' || c == '@'

/-- The inside of a tag behind its bracket, and what follows it. -/
def takeTag? (cs : List Char) : Option (List Char × List Char) :=
  match cs with
  | [] => none
  | c :: rest =>
    if startsTag c then
      match rest.dropWhile fun x => x != '[' && x != ']' with
      | ']' :: after => some (c :: rest.takeWhile fun x => x != '[' && x != ']', after)
      | _ => none
    else none

def Tag.ofInside (inside : List Char) : Tag :=
  { name := inside.takeWhile (· != '=')
    parameters := (inside.dropWhile (· != '=')).tail? }

/-- A text in which a backslash before a bracket is left out. -/
def dropEscapes : List Char → List Char
  | [] => []
  | '\\' :: '[' :: cs => '[' :: dropEscapes cs
  | c :: cs => c :: dropEscapes cs

def textPiece (reversed : List Char) : List Piece :=
  if reversed.isEmpty then [] else [.text (dropEscapes reversed.reverse)]

/-- The pieces for a tag behind some backslashes: two of them stand for one, and an odd one makes
the tag a text. -/
def tagPieces (slashes : Nat) (inside : List Char) : List Piece :=
  textPiece (List.replicate (slashes / 2) '\\') ++
    [if slashes % 2 = 0 then .tag (Tag.ofInside inside)
      else .text (dropEscapes ('[' :: inside ++ [']']))]

/-- Cuts a text into pieces; `before` holds the characters since the last tag, last first. -/
def piecesOf : Nat → List Char → List Char → List Piece
  | 0, before, _ => textPiece before
  | fuel + 1, before, cs =>
    let slashes := cs.takeWhile (· == '\\')
    match cs.drop slashes.length with
    | [] => textPiece (slashes ++ before)
    | '[' :: rest =>
      match takeTag? rest with
      | some (inside, after) =>
        textPiece before ++ tagPieces slashes.length inside ++ piecesOf fuel [] after
      | none => piecesOf fuel ('[' :: (slashes ++ before)) rest
    | c :: rest => piecesOf fuel (c :: (slashes ++ before)) rest

/-! ## Actions -/

/-- The part of an action's parameters that has to be a literal: all of them, or the parentheses
behind a name. A name alone needs none. -/
def actionLiteral (parameters : List Char) : List Char :=
  let trimmed := Text.trimBlankChars parameters
  let rest := trimmed.dropWhile fun c => Text.isWordChar c || c == '.'
  if rest.isEmpty then ['(', ')']
  else if rest.head? = some '(' && rest.getLast? = some ')' && !rest.contains '\n' then rest
  else trimmed

def isAction (parameters : Option (List Char)) : Bool :=
  match parameters with
  | none | some [] => true
  | some cs => Literal.isLiteral (actionLiteral cs)

/-! ## Text -/

/-- A tag that is open: where it begins, and the name by which it is closed. -/
structure OpenTag where
  start : Nat
  name : String
  parameters : Option (List Char)

namespace OpenTag

def isAction (t : OpenTag) : Bool := t.name.startsWith "@"

/-- The stretch of a tag that ends at an offset. Behind the name of a style its parameters may go on
with it. -/
def span (t : OpenTag) (stop : Nat) : Span :=
  ⟨t.start, stop, t.name ++ ((t.parameters.map fun cs => " " ++ String.ofList cs).getD "")⟩

/-- The stretch of a tag that is closed at an offset. -/
def close (t : OpenTag) (stop : Nat) : Except MarkupFault Span :=
  if !t.isAction then .ok (t.span stop)
  else if Console.isAction t.parameters then .ok ⟨t.start, stop, ""⟩
  else .error .notLiteral

end OpenTag

def styleName (name : List Char) : Except MarkupFault String :=
  match normalStyle (String.ofList name) with
  | .ok s => .ok s
  | .error _ => .error .noNumber

/-- Takes away the tag that was opened last of those with the name. -/
def takeNamed? (name : String) : List OpenTag → Option (OpenTag × List OpenTag)
  | [] => none
  | t :: ts =>
    if t.name = name then some (t, ts)
    else (takeNamed? name ts).map fun (found, ts) => (found, t :: ts)

/-- The tag that a closing tag closes, and those that stay open. Without a name it closes the one
opened last. -/
def takeClosed (name : List Char) (opened : List OpenTag) :
    Except MarkupFault (OpenTag × List OpenTag) := do
  let name := Text.trimBlankChars name
  let found ←
    if name.isEmpty then .ok (opened.head?.map fun t => (t, opened.tail))
    else (styleName name).map fun name => takeNamed? name opened
  match found with
  | some found => .ok found
  | none => .error .nothingToClose

/-- Bell, backspace, vertical tab, form feed and carriage return. -/
def movesCursor (c : Char) : Bool := ['\x07', '\x08', '\x0b', '\x0c', '\x0d'].contains c

/-- The characters that a text shows. -/
def shownChars (cs : List Char) : List Char := (withEmoji cs).filter fun c => !movesCursor c

/-- Adds pieces to a text. Tags that stay open enclose what is left. -/
def addPieces (t : MarkedText) (opened : List OpenTag) :
    List Piece → Except MarkupFault MarkedText
  | [] => .ok { t with spans := t.spans ++ opened.map fun tag => tag.span t.length }
  | .text cs :: pieces => addPieces { t with chars := t.chars ++ shownChars cs } opened pieces
  | .tag ⟨'/' :: name, _⟩ :: pieces => do
    let (tag, opened) ← takeClosed name opened
    let span ← tag.close t.length
    addPieces { t with spans := t.spans ++ [span] } opened pieces
  | .tag tag :: pieces => do
    let name ← styleName tag.name
    addPieces t (⟨t.length, name, tag.parameters⟩ :: opened) pieces

/-- What a text with markup shows. -/
def markedText (s : String) : Except MarkupFault MarkedText :=
  addPieces {} [] (piecesOf (s.length + 1) [] s.toList)

/-- Whether the styles of all spans can be shown. -/
def checkStyles (t : MarkedText) : Except MarkupFault Unit :=
  if t.spans.any fun s => Style.ofText s.style matches .error .noNumber then .error .noNumber
  else .ok ()

end RemoteBindings.Console
