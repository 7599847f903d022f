import RemoteBindings.Text.Blank
import RemoteBindings.Yaml.Moment

/-!
# Tags

The tag of a node says what it stands for. A plain scalar gets its tag from its form (`ofPlain`):
truth values, numbers in several bases, dates, nothing, and the two marks `<<` and `=` that count in
mappings; all others are texts.
-/

namespace RemoteBindings.Yaml

inductive Tag where
  | null
  | bool
  | int
  | float
  | binary
  | timestamp
  | omap
  | pairs
  | set
  | str
  | seq
  | map
  /-- Marks a key whose value is merged into the mapping. -/
  | merge
  /-- Marks the key of the default value. -/
  | value
  | unknown (name : String)
deriving Repr, DecidableEq

namespace Tag

def standardStart : String := "tag:yaml.org,2002:"

def standardTags : List (String × Tag) :=
  [("null", null), ("bool", bool), ("int", int), ("float", float), ("binary", binary),
   ("timestamp", timestamp), ("omap", omap), ("pairs", pairs), ("set", set), ("str", str),
   ("seq", seq), ("map", map), ("merge", merge), ("value", value)]

def ofName (name : String) : Tag :=
  ((standardTags.find? fun e => standardStart ++ e.1 == name).map Prod.snd).getD (unknown name)

/-- The full name of a tag. -/
def name (t : Tag) : String :=
  match t with
  | unknown name => name
  | t => ((standardTags.find? fun e => e.2 == t).map fun e => standardStart ++ e.1).getD ""

/-! ## Forms of plain scalars -/

def truthWords : List String :=
  ["yes", "Yes", "YES", "no", "No", "NO", "true", "True", "TRUE", "false", "False", "FALSE",
   "on", "On", "ON", "off", "Off", "OFF"]

def isSign (c : Char) : Bool := c == '-' || c == '+'

def dropSign : List Char → List Char
  | [] => []
  | c :: cs => if isSign c then cs else c :: cs

def isDigitOrMark (c : Char) : Bool := c.isDigit || c == '_'

/-- A minute or a second of a number in base sixty. -/
def isSixtieth : List Char → Bool
  | [c] => c.isDigit
  | [c, d] => '0' ≤ c && c ≤ '5' && d.isDigit
  | _ => false

/-- A number in base sixty, whose first part satisfies `head`. -/
def isSexagesimal (head : List Char → Bool) (cs : List Char) : Bool :=
  match Text.splitAtChars (· == ':') cs with
  | first :: part :: parts => head first && isSixtieth part && parts.all isSixtieth
  | _ => false

def startsWithDigit (isLead : Char → Bool) : List Char → Bool
  | [] => false
  | c :: cs => isLead c && cs.all isDigitOrMark

def isNonzeroDigit (c : Char) : Bool := '1' ≤ c && c ≤ '9'

def isInt (cs : List Char) : Bool :=
  match dropSign cs with
  | ['0'] => true
  | '0' :: 'b' :: rest => !rest.isEmpty && rest.all fun c => c == '0' || c == '1' || c == '_'
  | '0' :: 'x' :: rest => !rest.isEmpty && rest.all fun c => Text.isHexDigit c || c == '_'
  | '0' :: rest => rest.all fun c => ('0' ≤ c && c ≤ '7') || c == '_'
  | body => startsWithDigit isNonzeroDigit body ||
      isSexagesimal (startsWithDigit isNonzeroDigit) body

/-- An exponent with its sign, or nothing. -/
def isExponent : List Char → Bool
  | [] => true
  | mark :: sign :: digits =>
    (mark == 'e' || mark == 'E') && isSign sign && !digits.isEmpty && digits.all Char.isDigit
  | _ => false

/-- The digits behind a point, and perhaps an exponent. -/
def isFraction (cs : List Char) : Bool := isExponent (cs.dropWhile isDigitOrMark)

def infinityWords : List (List Char) := [".inf".toList, ".Inf".toList, ".INF".toList]

def nanWords : List (List Char) := [".nan".toList, ".NaN".toList, ".NAN".toList]

/-- A number with a point between its parts. -/
def hasPoint (cs : List Char) : Bool :=
  let whole := cs.takeWhile (· != '.')
  match cs.dropWhile (· != '.') with
  | [] => false
  | _ :: fraction =>
    (startsWithDigit Char.isDigit whole && isFraction fraction) ||
      (isSexagesimal (startsWithDigit Char.isDigit) whole && fraction.all isDigitOrMark)

def isFloat (cs : List Char) : Bool :=
  hasPoint (dropSign cs) || infinityWords.contains (dropSign cs) || nanWords.contains cs ||
    match cs with
    | '.' :: c :: rest => c.isDigit && isFraction rest
    | _ => false

def nullWords : List String := ["", "~", "null", "Null", "NULL"]

/-- A scalar without one line feed at its end, unless that is all. -/
def withoutFinalBreak (cs : List Char) : List Char :=
  if 1 < cs.length ∧ cs.getLast? = some '\n' then cs.dropLast else cs

/-- The tag of a plain scalar. -/
def ofPlain (text : String) : Tag :=
  let cs := withoutFinalBreak text.toList
  let s := String.ofList cs
  if truthWords.contains s then bool
  else if isFloat cs then float
  else if isInt cs then int
  else if s = "<<" then merge
  else if nullWords.contains s then null
  else if isMoment cs then timestamp
  else if s = "=" then value
  else if s = "!" ∨ s = "&" ∨ s = "*" then unknown (standardStart ++ "yaml")
  else str

end Tag

end RemoteBindings.Yaml
