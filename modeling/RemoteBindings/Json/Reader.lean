import RemoteBindings.Decimal.Notation
import RemoteBindings.Json.Error
import RemoteBindings.Text.Digits
import RemoteBindings.Value.Equal

/-!
# Reading JSON

`read?` reads a document into a `Value`: an object becomes a mapping in the order of its names
(equal names keep the first place and the last value), a number with a fraction or an exponent a
float, any other number an integer of any size. `NaN` and the infinities are accepted, and so are
surrogates by themselves, for which the readers take a character (`LoneSurrogate`).

The readers work on the characters that are left and fail with a `Stop`, which holds the number of
characters left at the failure; `read?` turns it into an index.
-/

namespace RemoteBindings.Json

open Text (LoneSurrogate)

variable [LoneSurrogate]

/-- A problem, with the number of characters left where it was found. -/
structure Stop where
  problem : Problem
  left : Nat

abbrev Read (α : Type) := Except Stop (α × List Char)

def stop {α : Type} (problem : Problem) (rest : List Char) : Read α :=
  .error ⟨problem, rest.length⟩

def isSpace (c : Char) : Bool := c == ' ' || c == '\t' || c == '\n' || c == '\r'

def skipSpace (cs : List Char) : List Char := cs.dropWhile isSpace

/-- The character of a one-letter escape. -/
def escaped? : Char → Option Char
  | '"' => some '"'
  | '\\' => some '\\'
  | '/' => some '/'
  | 'b' => some '\x08'
  | 'f' => some '\x0c'
  | 'n' => some '\n'
  | 'r' => some '\r'
  | 't' => some '\t'
  | _ => none

/-- The 16-bit unit that four hexadecimal digits name. -/
def unit? (a b c d : Char) : Option Nat :=
  if [a, b, c, d].all Text.isHexDigit then some (Text.digitsValue 16 [a, b, c, d]) else none

/-- The character of a pair of surrogates. -/
def ofSurrogates (high low : Nat) : Char :=
  Char.ofNat (0x10000 + 0x400 * (high - 0xD800) + (low - 0xDC00))

def isHighSurrogate (n : Nat) : Bool := 0xD800 ≤ n && n < 0xDC00

def isLowSurrogate (n : Nat) : Bool := 0xDC00 ≤ n && n < 0xE000

/-- The character of a single unit. -/
def ofUnit (n : Nat) : Char :=
  if isHighSurrogate n || isLowSurrogate n then LoneSurrogate.standIn else Char.ofNat n

/-- The character that a code escape at the head of a text stands for, and the text behind it, which
is not empty; two escapes for a pair of surrogates stand for one character. -/
def takeCode : List Char → Read Char
  | '\\' :: 'u' :: a :: b :: c :: d :: e :: rest =>
    match unit? a b c d with
    | none => .error ⟨.malformedCodeEscape, rest.length + 6⟩
    | some n =>
      match isHighSurrogate n, e :: rest with
      | true, '\\' :: 'u' :: a :: b :: c :: d :: e' :: rest' =>
        match unit? a b c d with
        | none => .error ⟨.malformedCodeEscape, rest'.length + 6⟩
        | some low =>
          if isLowSurrogate low then .ok (ofSurrogates n low, e' :: rest')
          else .ok (ofUnit n, e :: rest)
      | _, _ => .ok (ofUnit n, e :: rest)
  | cs => .error ⟨.malformedCodeEscape, cs.length - 1⟩

/-- The next character of a string that has not ended, and the text behind it. -/
def takeCharacter : List Char → Read Char
  | [] | ['\\'] => .error ⟨.unterminatedString, 0⟩
  | '\\' :: 'u' :: cs => takeCode ('\\' :: 'u' :: cs)
  | '\\' :: c :: cs => match escaped? c with
    | none => .error ⟨.unknownEscape, cs.length + 2⟩
    | some x => .ok (x, cs)
  | c :: cs => if c.toNat < 0x20 then .error ⟨.controlCharacter, cs.length + 1⟩ else .ok (c, cs)

/-- Reads the rest of a string; `done` holds its characters so far, last first. Each character takes
one unit of fuel. -/
def readCharacters : Nat → List Char → List Char → Read String
  | 0, _, _ => .error ⟨.unterminatedString, 0⟩
  | fuel + 1, done, cs => match cs with
    | '"' :: rest => .ok (String.ofList done.reverse, rest)
    | cs => match takeCharacter cs with
      | .error e => .error e
      | .ok (c, rest) => readCharacters fuel (c :: done) rest

/-- Reads the rest of a string; `opened` is the text from its opening quote on. -/
def readString (opened rest : List Char) : Read String :=
  match readCharacters opened.length [] rest with
  | .error ⟨.unterminatedString, _⟩ => stop .unterminatedString opened
  | r => r

/-- The fraction of a number and what follows it: a point counts only before a digit. -/
def takeFraction : List Char → List Char × List Char
  | '.' :: c :: cs =>
    if c.isDigit then (c :: cs.takeWhile Char.isDigit, cs.dropWhile Char.isDigit)
    else ([], '.' :: c :: cs)
  | cs => ([], cs)

/-- The exponent of a number and what follows it: the mark counts only before a digit. -/
def takeExponent? : List Char → Option (Int × List Char)
  | e :: cs =>
    if e = 'e' ∨ e = 'E' then
      let (negative, digits) : Bool × List Char := match cs with
        | '-' :: ds => (true, ds)
        | '+' :: ds => (false, ds)
        | ds => (false, ds)
      match digits.takeWhile Char.isDigit with
      | [] => none
      | ds =>
        let n : Int := Text.digitsValue 10 ds
        some (if negative then -n else n, digits.dropWhile Char.isDigit)
    else none
  | [] => none

/-- Reads a number without its sign; `start` is the text from the sign on. -/
def readNumber (start : List Char) (negative : Bool) (cs : List Char) : Read Value :=
  let (whole, rest) := match cs with
    | '0' :: rest => (['0'], rest)
    | _ => (cs.takeWhile Char.isDigit, cs.dropWhile Char.isDigit)
  if whole.isEmpty then stop .expectingValue start
  else
    let (fraction, rest) := takeFraction rest
    match takeExponent? rest with
    | some (e, rest) =>
      let n := Text.digitsValue 10 (whole ++ fraction)
      .ok (.float ((Decimal.Number.mk n (e - fraction.length)).toFloat negative), rest)
    | none =>
      if fraction.isEmpty then
        if Decimal.maxDigits < whole.length then stop .hugeInteger start
        else
          let n : Int := Text.digitsValue 10 whole
          .ok (.int (if negative then -n else n), rest)
      else
        let n := Text.digitsValue 10 (whole ++ fraction)
        .ok (.float ((Decimal.Number.mk n (-fraction.length)).toFloat negative), rest)

/-- The words that stand for a value. -/
def words : List (List Char × Value) :=
  [("null".toList, .null), ("true".toList, .bool true), ("false".toList, .bool false),
   ("NaN".toList, .float (0.0 / 0.0)), ("Infinity".toList, .float (1.0 / 0.0)),
   ("-Infinity".toList, .float (-1.0 / 0.0))]

/-- Reads a value that is neither a string nor nested. -/
def readScalar (cs : List Char) : Read Value :=
  match words.find? fun w => w.1.isPrefixOf cs with
  | some (word, value) => .ok (value, cs.drop word.length)
  | none => match cs with
    | '-' :: digits => readNumber cs true digits
    | _ => readNumber cs false cs

mutual

/-- Reads a value at the head of the text. Each level of nesting takes one unit of `fuel`. -/
def readValue : Nat → List Char → Read Value
  | 0, cs => stop .expectingValue cs
  | fuel + 1, cs => match cs with
    | '"' :: rest => match readString cs rest with
      | .error e => .error e
      | .ok (s, rest) => .ok (.text s, rest)
    | '[' :: rest => match skipSpace rest with
      | ']' :: rest => .ok (.list [], rest)
      | rest => readItems fuel [] rest
    | '\x7b' :: rest => match skipSpace rest with
      | '\x7d' :: rest => .ok (.map [], rest)
      | rest => readMembers fuel [] rest
    | _ => readScalar cs

/-- Reads the items of a list from the next one on; `done` holds those before, last first. -/
def readItems : Nat → List Value → List Char → Read Value
  | 0, _, cs => stop .expectingValue cs
  | fuel + 1, done, cs => match readValue fuel cs with
    | .error e => .error e
    | .ok (v, rest) => match skipSpace rest with
      | ']' :: rest => .ok (.list (v :: done).reverse, rest)
      | ',' :: rest => readItems fuel (v :: done) (skipSpace rest)
      | rest => stop .expectingComma rest

/-- Reads the members of an object from the next name on. -/
def readMembers : Nat → List (Value × Value) → List Char → Read Value
  | 0, _, cs => stop .expectingName cs
  | fuel + 1, done, cs => match cs with
    | '"' :: rest => match readString cs rest with
      | .error e => .error e
      | .ok (name, rest) => match skipSpace rest with
        | ':' :: rest => match readValue fuel (skipSpace rest) with
          | .error e => .error e
          | .ok (v, rest) => match skipSpace rest with
            | '\x7d' :: rest => .ok (Value.mapOfList ((.text name, v) :: done).reverse, rest)
            | ',' :: rest => readMembers fuel ((.text name, v) :: done) (skipSpace rest)
            | rest => stop .expectingComma rest
        | rest => stop .expectingColon rest
    | _ => stop .expectingName cs

end

/-- Reads a document with white space around it. Every two steps consume a character, so the length
of the text bounds the steps. -/
def readDocument (cs : List Char) : Except Stop Value :=
  match cs with
  | '\uFEFF' :: _ => .error ⟨.byteOrderMark, cs.length⟩
  | _ => match readValue (2 * cs.length + 2) (skipSpace cs) with
    | .error e => .error e
    | .ok (v, rest) => match skipSpace rest with
      | [] => .ok v
      | rest => .error ⟨.extraData, rest.length⟩

def read? (text : String) : Except Error Value :=
  match readDocument text.toList with
  | .ok v => .ok v
  | .error e => .error ⟨e.problem, text.length - e.left⟩

end RemoteBindings.Json
