import RemoteBindings.Decimal.Notation
import RemoteBindings.Text.Case
import RemoteBindings.Text.Digits
import RemoteBindings.Text.Lines

/-!
# The tokens of literals

Numbers, texts, words and marks, as the parameters of an action in console markup hold them.
`tokensOf?` cuts a text into tokens; it has no value if a number or a text is not well written.
-/

namespace RemoteBindings.Console.Literal

inductive Token where
  | number (isImaginary : Bool)
  | text (isBytes : Bool)
  | word (name : String)
  | dots
  | mark (c : Char)
deriving Repr, DecidableEq

/-- Letters, digits, the underscore, and everything beyond ASCII. -/
def isWordChar (c : Char) : Bool := c.isAlphanum || c == '_' || !Text.isAscii c

/-! ## Numbers -/

/-- What follows digits that go on; an underscore may stand between two of them. -/
def afterDigits? (isDigit : Char → Bool) : List Char → Option (List Char)
  | '_' :: c :: cs => if isDigit c then afterDigits? isDigit cs else none
  | '_' :: [] => none
  | c :: cs => if isDigit c then afterDigits? isDigit cs else some (c :: cs)
  | [] => some []

/-- What follows digits, of which there is at least one. -/
def digits? (isDigit : Char → Bool) : List Char → Option (List Char)
  | c :: cs => if isDigit c then afterDigits? isDigit cs else none
  | [] => none

/-- The digits of a base that is named by a letter behind a zero. -/
def digitsOfBase? (letter : Char) : Option (Char → Bool) :=
  match letter.toLower with
  | 'x' => some Text.isHexDigit
  | 'o' => some fun c => '0' ≤ c && c ≤ '7'
  | 'b' => some fun c => c == '0' || c == '1'
  | _ => none

/-- What follows a fraction or an exponent, if there is one. -/
def afterFraction? : List Char → Option (List Char)
  | '.' :: c :: cs => if c.isDigit then digits? Char.isDigit (c :: cs) else some (c :: cs)
  | '.' :: [] => some []
  | cs => some cs

def afterExponent? (cs : List Char) : Option (List Char) :=
  match cs with
  | [] => some []
  | e :: rest =>
    let digits := match rest with
      | '+' :: digits | '-' :: digits => digits
      | digits => digits
    if e.toLower == 'e' && (digits.headD ' ').isDigit then digits? Char.isDigit digits else some cs

/-- Whether the digits of an integer stand for one: no zero begins them but for zero itself, and
they are not too many. -/
def isInteger (written : List Char) : Bool :=
  let digits := written.filter (· != '_')
  (digits.head? != some '0' || digits.all (· == '0')) && digits.length ≤ Decimal.maxDigits

/-- A number in decimal notation: whether it is imaginary, and what follows it. -/
def decimal? (cs : List Char) : Option (Bool × List Char) := do
  let afterWhole ← afterDigits? Char.isDigit cs
  let rest ← (afterFraction? afterWhole).bind afterExponent?
  match rest with
  | 'j' :: rest | 'J' :: rest => some (true, rest)
  | _ =>
    if rest.length < afterWhole.length || isInteger (cs.take (cs.length - rest.length)) then
      some (false, rest)
    else none

/-- A number that begins with a digit or a point. -/
def number? (cs : List Char) : Option (Bool × List Char) :=
  match cs with
  | '0' :: letter :: digits => match digitsOfBase? letter with
    | some isDigit =>
      (digits? isDigit (if digits.head? = some '_' then digits.tail else digits)).map (false, ·)
    | none => decimal? cs
  | _ => decimal? cs

/-! ## Texts -/

/-- The inside of a text and what follows it. A text in triple quotes may go over lines. -/
def inside? (quote : Char) (isTriple : Bool) : List Char → Option (List Char × List Char)
  | '\\' :: c :: cs => (inside? quote isTriple cs).map fun (body, rest) => ('\\' :: c :: body, rest)
  | c :: cs =>
    if c = quote && (!isTriple || [quote, quote].isPrefixOf cs) then
      some ([], if isTriple then cs.drop 2 else cs)
    else if c = '\\' || (c = '\n' && !isTriple) then none
    else (inside? quote isTriple cs).map fun (body, rest) => (c :: body, rest)
  | [] => none

/-- Whether a text begins with digits for a character code of the given length. -/
def hasCode (length : Nat) (cs : List Char) : Bool :=
  let digits := cs.take length
  digits.length == length && digits.all Text.isHexDigit && Text.digitsValue 16 digits ≤ 0x10FFFF

/-- Whether a text begins with the name of a character in braces. -/
def hasCharName (cs : List Char) : Bool :=
  match cs with
  | '\x7b' :: cs =>
    let name := cs.takeWhile fun c => c.isAlphanum || c == ' ' || c == '-'
    !name.isEmpty && (cs.drop name.length).head? == some '\x7d'
  | _ => false

/-- Whether every character that a backslash gives by its code or its name is there. -/
def escapesAreWhole (isBytes : Bool) : List Char → Bool
  | '\\' :: c :: cs =>
    (match c with
      | 'x' => hasCode 2 cs
      | 'u' => isBytes || hasCode 4 cs
      | 'U' => isBytes || hasCode 8 cs
      | 'N' => isBytes || hasCharName cs
      | _ => true) && escapesAreWhole isBytes cs
  | _ :: cs => escapesAreWhole isBytes cs
  | [] => true

/-- A text behind the letters before its quote, and what follows it. -/
def text? (letters : List Char) (cs : List Char) : Option (Bool × List Char) := do
  let isBytes := letters.contains 'b'
  let quote ← cs.head?
  let isTriple := [quote, quote, quote].isPrefixOf cs
  let (body, rest) ← inside? quote isTriple (cs.drop (if isTriple then 3 else 1))
  if (isBytes && !body.all Text.isAscii) ||
      (!letters.contains 'r' && !escapesAreWhole isBytes body) then none
  else some (isBytes, rest)

/-- The letters that may stand before a quote. -/
def isTextStart (letters : List Char) (cs : List Char) : Bool :=
  (cs.head? == some '\'' || cs.head? == some '"') &&
    ["", "b", "u", "r", "br", "rb"].contains (String.ofList letters)

/-! ## Tokens -/

def opens (c : Char) : Bool := c == '(' || c == '\x7b'

def closes (c : Char) : Bool := c == ')' || c == '\x7d'

/-- How deep brackets may be nested. -/
def maxDepth : Nat := 200

/-- The token at the start of a text, and what follows it. -/
def token? (cs : List Char) : Option (Token × List Char) :=
  match cs with
  | [] => none
  | c :: rest =>
    let word := cs.takeWhile isWordChar
    let letters := word.map Char.toLower
    let afterWord := cs.drop word.length
    if c.isDigit || (c = '.' && (rest.headD ' ').isDigit) then
      match number? cs with
      | some (isImaginary, rest) =>
        if isWordChar (rest.headD ' ') then none else some (.number isImaginary, rest)
      | none => none
    else if isTextStart letters afterWord then
      (text? letters afterWord).map fun (isBytes, rest) => (.text isBytes, rest)
    else if !word.isEmpty then some (.word (String.ofList word), afterWord)
    else if ['.', '.', '.'].isPrefixOf cs then some (.dots, cs.drop 3)
    else if opens c || closes c || [',', ':', '+', '-'].contains c then some (.mark c, rest)
    else none

/-- White space inside a line. -/
def isGap (c : Char) : Bool := c == ' ' || c == '\t' || c == '\x0c'

/-- The tokens of a text inside some brackets. Outside of them nothing but comments may follow the
end of a line. -/
def tokensIn : Nat → Nat → List Char → Option (List Token)
  | 0, _, _ => none
  | _, _, [] => some []
  | fuel + 1, depth, c :: cs =>
    if isGap c then tokensIn fuel depth cs
    else if c = '#' then tokensIn fuel depth (cs.dropWhile (· != '\n'))
    else if c = '\n' then
      if depth = 0 then (tokensIn fuel 0 cs).filter List.isEmpty else tokensIn fuel depth cs
    else if c = '\\' && cs.head? = some '\n' then tokensIn fuel depth cs.tail
    else match token? (c :: cs) with
      | none => none
      | some (.mark m, rest) =>
        if opens m then
          if depth < maxDepth then (tokensIn fuel (depth + 1) rest).map (.mark m :: ·) else none
        else (tokensIn fuel (if closes m then depth - 1 else depth) rest).map (.mark m :: ·)
      | some (t, rest) => (tokensIn fuel depth rest).map (t :: ·)

/-- A text behind the lines at its start that hold no token. -/
def afterComments : Nat → List Char → List Char
  | 0, cs => cs
  | fuel + 1, cs =>
    match cs.dropWhile isGap with
    | '#' :: rest => afterComments fuel ((rest.dropWhile (· != '\n')).drop 1)
    | '\n' :: rest => afterComments fuel rest
    | _ => cs

/-- Whether a line is indented; a form feed begins it anew. -/
def isIndented (cs : List Char) : Bool :=
  match (cs.takeWhile isGap).getLast? with
  | none | some '\x0c' => false
  | some _ => true

def tokensOf? (cs : List Char) : Option (List Token) :=
  let text := Text.unifyLineEndChars cs
  let body := afterComments (text.length + 1) text
  if isIndented body then none else tokensIn (body.length + 1) 0 body

end RemoteBindings.Console.Literal
