import RemoteBindings.Decimal.Notation
import RemoteBindings.Text.Blank
import RemoteBindings.Text.Case
import RemoteBindings.Text.Digits
import RemoteBindings.Yaml.Tag

/-!
# Values of scalars

The value of a scalar under a tag. A stated tag may meet a text of another form, so every reader
here says what becomes of any text: `integerValue`, `floatValue`, `truthValue`, `momentValue`,
`bytesValue`.
-/

namespace RemoteBindings.Yaml

def withoutMarks (cs : List Char) : List Char := cs.filter (· != '_')

/-- The sign of a number and what follows it; a text that is empty is no number. -/
def takeSign : List Char → Result (Bool × List Char)
  | [] => .error .emptyNumber
  | '-' :: cs => .ok (true, cs)
  | '+' :: cs => .ok (false, cs)
  | cs => .ok (false, cs)

def isDigitIn (base : Nat) (c : Char) : Bool :=
  match Text.hexValue? c with
  | some n => n < base
  | none => false

/-- Digits in a base. -/
def digitsIn? (base : Nat) (cs : List Char) : Option Nat :=
  if cs.isEmpty || !cs.all (isDigitIn base) then none else some (Text.digitsValue base cs)

/-- A mark of the base, in either case, may come before the digits. -/
def dropBaseMark (base : Nat) : List Char → List Char
  | '0' :: c :: cs =>
    if (base = 2 ∧ c.toLower = 'b') ∨ (base = 8 ∧ c.toLower = 'o') ∨ (base = 16 ∧ c.toLower = 'x')
    then cs else '0' :: c :: cs
  | cs => cs

/-- An integer in a base, with white space around it and a sign. -/
def integerIn (base : Nat) (cs : List Char) : Result Int :=
  let body := Text.trimPlainSpace (Text.plainDigits cs)
  let (negative, digits) := match body with
    | '-' :: rest => (true, rest)
    | '+' :: rest => (false, rest)
    | rest => (false, rest)
  let digits := dropBaseMark base digits
  if base = 10 ∧ Decimal.maxDigits < digits.length then .error .badValue
  else match digitsIn? base digits with
    | none => .error .badValue
    | some n => .ok (if negative then -n else n)

/-- The value of parts in base sixty, the largest first. -/
def sexagesimal (parts : List Int) : Int := parts.foldl (fun acc n => 60 * acc + n) 0

def readParts (read : List Char → Result Int) : List (List Char) → Result (List Int)
  | [] => .ok []
  | p :: ps => do
    let n ← read p
    let ns ← readParts read ps
    return n :: ns

/-- The size of an integer, whose base shows at its start. -/
def integerSize : List Char → Result Int
  | [] => .error .emptyNumber
  | ['0'] => .ok 0
  | '0' :: 'b' :: cs => integerIn 2 cs
  | '0' :: 'x' :: cs => integerIn 16 cs
  | '0' :: cs => integerIn 8 ('0' :: cs)
  | cs =>
    if cs.contains ':' then
      (readParts (integerIn 10) (Text.splitAtChars (· == ':') cs)).map sexagesimal
    else integerIn 10 cs

def integerValue (text : String) : Result Value := do
  let (negative, cs) ← takeSign (withoutMarks text.toList)
  let n ← integerSize cs
  return .int (if negative then -n else n)

/-! ## Floats -/

/-- An exponent with an optional sign. -/
def exponentOf? : List Char → Option Int
  | '-' :: ds => (digitsIn? 10 ds).map fun n => -(n : Int)
  | '+' :: ds => (digitsIn? 10 ds).map fun n => (n : Int)
  | ds => (digitsIn? 10 ds).map fun n => (n : Int)

def isExponentMark (c : Char) : Bool := c == 'e' || c == 'E'

/-- A number in decimal notation without its sign; there must be a digit before the exponent. -/
def decimal? (negative : Bool) (cs : List Char) : Option Float :=
  let mantissa := cs.takeWhile fun c => !isExponentMark c
  let whole := mantissa.takeWhile Char.isDigit
  let (point, fraction) := match mantissa.dropWhile Char.isDigit with
    | '.' :: fraction => (true, fraction)
    | rest => (false, rest)
  if (whole.isEmpty && fraction.isEmpty) || !fraction.all Char.isDigit ||
    (!point && !fraction.isEmpty) then none
  else
    let digits := Text.digitsValue 10 (whole ++ fraction)
    let number (e : Int) : Float :=
      (Decimal.Number.mk digits (e - fraction.length)).toFloat negative
    match cs.dropWhile fun c => !isExponentMark c with
    | [] => some (number 0)
    | _ :: e => (exponentOf? e).map number

def infinity (negative : Bool) : Float := if negative then -1.0 / 0.0 else 1.0 / 0.0

def signedFloat? (negative : Bool) (cs : List Char) : Option Float :=
  let word := String.ofList cs
  if word = "inf" ∨ word = "infinity" then some (infinity negative)
  else if word = "nan" then some (0.0 / 0.0)
  else decimal? negative cs

/-- A float in decimal notation or by name, in lower case, with white space around it. -/
def floatIn (cs : List Char) : Result Float :=
  let read := match Text.trimPlainSpace (Text.plainDigits cs) with
    | '-' :: rest => signedFloat? true rest
    | '+' :: rest => signedFloat? false rest
    | rest => signedFloat? false rest
  match read with
  | some x => .ok x
  | none => .error .badValue

/-- The sum of parts in base sixty, the smallest first; `place` is the exact size of the first. A
part whose place is too large for a float has no value. -/
def addPlaces (sum : Float) (place : Nat) : List Float → Result Float
  | [] => .ok sum
  | x :: xs =>
    let size := (Decimal.Number.mk place 0).toFloat false
    if size.isInf then .error .outOfRange else addPlaces (sum + x * size) (place * 60) xs

def readFloats : List (List Char) → Result (List Float)
  | [] => .ok []
  | p :: ps => do
    let x ← floatIn p
    let xs ← readFloats ps
    return x :: xs

def notANumber : List Char := ".nan".toList

/-- The size of a float in lower case. -/
def floatSize (cs : List Char) : Result Float :=
  if cs = ".inf".toList then .ok (infinity false)
  else if cs = notANumber then .ok (0.0 / 0.0)
  else if cs.contains ':' then do
    let xs ← readFloats (Text.splitAtChars (· == ':') cs)
    addPlaces 0.0 1 xs.reverse
  else floatIn cs

/-- The value of a float. The written form that stands for no number always means the same value;
what is no number otherwise comes from the place of the scalar alone, its `origin`. -/
def floatValue (origin : Nat) (text : String) : Result Value := do
  let (negative, cs) ← takeSign (Text.lowerChars (withoutMarks text.toList))
  let x ← floatSize cs
  return Value.ofFloat (if cs = notANumber then 0 else origin) (if negative then -x else x)

/-! ## Other scalars -/

def truthValue (text : String) : Result Value :=
  let word := Text.lower text
  if ["yes", "true", "on"].contains word then .ok (.bool true)
  else if ["no", "false", "off"].contains word then .ok (.bool false)
  else .error .unknownTruth

def momentValue (text : String) : Result Value :=
  let cs := text.toList
  let line := if cs.getLast? = some '\n' then cs.dropLast else cs
  match readMoment? line with
  | none => .error .unknownMoment
  | some m => m.toValue

/-- The value of a digit in base 64. -/
def sixtyFourth? (c : Char) : Option Nat :=
  if 'A' ≤ c ∧ c ≤ 'Z' then some (c.toNat - 65)
  else if 'a' ≤ c ∧ c ≤ 'z' then some (c.toNat - 71)
  else if c.isDigit then some (c.toNat + 4)
  else if c = '+' then some 62
  else if c = '/' then some 63
  else none

/-- How far the groups of four digits have come: the number of complete ones, the digits of the
current one, the bits that are left over, and the number of padding marks since the last digit. -/
structure Group where
  complete : Nat := 0
  digits : Nat := 0
  left : Nat := 0
  padding : Nat := 0

/-- Adds a digit to a group, with the byte that it completes. -/
def Group.add (g : Group) (n : Nat) : Group × List UInt8 :=
  let next (left : Nat) : Group := { complete := g.complete, digits := g.digits + 1, left }
  match g.digits with
  | 0 => (next n, [])
  | 1 => (next (n % 16), [UInt8.ofNat (g.left * 4 + n / 16)])
  | 2 => (next (n % 4), [UInt8.ofNat (g.left * 16 + n / 4)])
  | _ => ({ complete := g.complete + 1 }, [UInt8.ofNat (g.left * 64 + n)])

/-- What is wrong where a text ends within a group. -/
def Group.fault (g : Group) : BinaryFault :=
  if g.digits = 1 then .lostDigit g.complete else .padding

/-- The bytes of a text in base 64. Other characters are passed over, and padding that completes a
group ends the text; a group must be complete. -/
def decodeBytes (g : Group) : List Char → Except BinaryFault (List UInt8)
  | [] => if g.digits = 0 then .ok [] else .error g.fault
  | c :: cs =>
    if c = '=' then
      if 2 ≤ g.digits then
        if 4 ≤ g.digits + g.padding + 1 then .ok []
        else decodeBytes { g with padding := g.padding + 1 } cs
      else decodeBytes g cs
    else match sixtyFourth? c with
      | none => decodeBytes g cs
      | some n =>
        let (g, bytes) := g.add n
        (decodeBytes g cs).map (bytes ++ ·)

/-- The bytes that a text stands for, all of it in ASCII. -/
def readBytes (text : String) : Except BinaryFault (List UInt8) :=
  if text.toList.all fun c => c.toNat < 0x80 then decodeBytes {} text.toList
  else .error (.notAscii text)

def bytesValue (start : Mark) (text : String) : Result Value :=
  match readBytes text with
  | .ok bytes => .ok (.bytes bytes)
  | .error f => refuse .none (.noBinary f) start

/-- The value of the scalar at `start` under a tag; tags that are no tags of scalars have none. -/
def scalarValue (origin : Nat) (start : Mark) (tag : Tag) (text : String) : Result Value :=
  match tag with
  | .null => .ok .null
  | .bool => truthValue text
  | .int => integerValue text
  | .float => floatValue origin text
  | .binary => bytesValue start text
  | .timestamp => momentValue text
  | .str => .ok (.text text)
  | tag => refuse .none (.unknownTag tag.name) start

end RemoteBindings.Yaml
