import RemoteBindings.Console.Color

/-!
# Styles

A style is written in words: attributes such as `bold` or its short form `b`, each perhaps behind
`not`, a color, another one behind `on`, and an address behind `link`. `Style.text` writes a style
in a fixed order, so that two texts for one style have the same `normalStyle`.
-/

namespace RemoteBindings.Console

structure Style where
  /-- Attributes that are switched on or off, the latest first. -/
  switches : List (String × Bool) := []
  color : Option String := none
  background : Option String := none
  link : Option String := none
deriving Repr, DecidableEq

/-- Why a text gives no style. -/
inductive StyleFault where
  | unreadable
  /-- A component of a color is no number. -/
  | noNumber
deriving Repr, DecidableEq

/-- The attributes, in the order in which they are written. -/
def attributes : List String :=
  ["bold", "dim", "italic", "underline", "blink", "blink2", "reverse", "conceal", "strike",
   "underline2", "frame", "encircle", "overline"]

def shortAttributes : List (String × String) :=
  [("b", "bold"), ("d", "dim"), ("i", "italic"), ("u", "underline"), ("r", "reverse"),
   ("c", "conceal"), ("s", "strike"), ("uu", "underline2"), ("o", "overline")]

def attribute? (word : String) : Option String :=
  if attributes.contains word then some word else shortAttributes.lookup word

def styleColor (word : String) : Except StyleFault String :=
  match colorName word with
  | .ok name => .ok name
  | .error .unknown => .error .unreadable
  | .error .noNumber => .error .noNumber

namespace Style

/-- Adds words to a style. Only the words that stand alone may be in capitals. -/
def addWords (s : Style) : List String → Except StyleFault Style
  | [] => .ok s
  | word :: rest =>
    match Text.lower word, rest with
    | "on", [] | "not", [] | "link", [] => .error .unreadable
    | "on", color :: rest => do
      let name ← styleColor color
      { s with background := some name }.addWords rest
    | "not", word :: rest =>
      match attribute? word with
      | none => .error .unreadable
      | some a => { s with switches := (a, false) :: s.switches }.addWords rest
    | "link", address :: rest => { s with link := some address }.addWords rest
    | word, rest =>
      match attribute? word with
      | some a => { s with switches := (a, true) :: s.switches }.addWords rest
      | none => do
        let name ← styleColor word
        { s with color := some name }.addWords rest

def ofText (text : String) : Except StyleFault Style :=
  if Text.trimBlank text = "none" then .ok {} else ({} : Style).addWords (Text.splitBlank text)

/-- The words of a style. -/
def words (s : Style) : List String :=
  attributes.flatMap (fun a =>
    match s.switches.lookup a with
    | none => []
    | some true => [a]
    | some false => ["not", a]) ++
  s.color.toList ++
  (s.background.map fun color => ["on", color]).getD [] ++
  (s.link.map fun address => ["link", address]).getD []

def text (s : Style) : String :=
  if s.words.isEmpty then "none" else String.intercalate " " s.words

end Style

/-- The text by which styles are matched. What gives no style is only trimmed and in lower case. -/
def normalStyle (text : String) : Except StyleFault String :=
  match Style.ofText text with
  | .ok s => .ok s.text
  | .error .unreadable => .ok (Text.lower (Text.trimBlank text))
  | .error .noNumber => .error .noNumber

end RemoteBindings.Console
