import RemoteBindings.Text.Blank

/-!
# Digits

The value of digits in a base, as `String` readers of numbers need it. A digit beyond the base
counts with its own value: callers test the digits first. Digits may give the code of a surrogate,
which is no character (`LoneSurrogate`). `plainDigits` writes the decimal digits of other scripts
with those of ASCII.
-/

namespace RemoteBindings.Text

/-- The value of a hexadecimal digit. -/
def hexValue? (c : Char) : Option Nat :=
  if c.isDigit then some (c.toNat - 48)
  else if 'a' ≤ c ∧ c ≤ 'f' then some (c.toNat - 87)
  else if 'A' ≤ c ∧ c ≤ 'F' then some (c.toNat - 55)
  else none

def isHexDigit (c : Char) : Bool := (hexValue? c).isSome

def digitsValue (base : Nat) (cs : List Char) : Nat :=
  cs.foldl (fun n c => base * n + (hexValue? c).getD 0) 0

/-- The character that is read for a surrogate by itself, which is none. What is made of a text holds
a surrogate only if it depends on this choice. -/
class LoneSurrogate where
  standIn : Char

instance LoneSurrogate.replacement : LoneSurrogate := ⟨'\uFFFD'⟩

/-- The zeros of the decimal digits in Unicode 14; the other nine follow each of them. -/
def decimalZeros : List Nat :=
  [0x30, 0x660, 0x6F0, 0x7C0, 0x966, 0x9E6, 0xA66, 0xAE6, 0xB66, 0xBE6, 0xC66, 0xCE6, 0xD66, 0xDE6,
   0xE50, 0xED0, 0xF20, 0x1040, 0x1090, 0x17E0, 0x1810, 0x1946, 0x19D0, 0x1A80, 0x1A90, 0x1B50,
   0x1BB0, 0x1C40, 0x1C50, 0xA620, 0xA8D0, 0xA900, 0xA9D0, 0xA9F0, 0xAA50, 0xABF0, 0xFF10, 0x104A0,
   0x10D30, 0x11066, 0x110F0, 0x11136, 0x111D0, 0x112F0, 0x11450, 0x114D0, 0x11650, 0x116C0,
   0x11730, 0x118E0, 0x11950, 0x11C50, 0x11D50, 0x11DA0, 0x16A60, 0x16AC0, 0x16B50, 0x1D7CE,
   0x1D7D8, 0x1D7E2, 0x1D7EC, 0x1D7F6, 0x1E140, 0x1E2F0, 0x1E950, 0x1FBF0]

def decimalValue? (c : Char) : Option Nat :=
  (decimalZeros.find? fun first => first ≤ c.toNat && c.toNat < first + 10).map (c.toNat - ·)

/-- A written number in ASCII: decimal digits become those of ASCII, and white space beyond ASCII a
space. -/
def plainDigits (cs : List Char) : List Char :=
  cs.map fun c =>
    if c.toNat < 0x7F then c
    else if isBlank c then ' '
    else match decimalValue? c with
      | some n => Char.ofNat (48 + n)
      | none => c

/-- White space in ASCII, but for the information separators. -/
def isPlainSpace (c : Char) : Bool := c == ' ' || (0x09 ≤ c.toNat && c.toNat ≤ 0x0D)

def trimPlainSpace (cs : List Char) : List Char :=
  dropEndWhile isPlainSpace (cs.dropWhile isPlainSpace)

end RemoteBindings.Text
