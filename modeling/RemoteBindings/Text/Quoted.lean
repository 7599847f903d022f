import RemoteBindings.Text.Printable

/-!
# Quoted text

`quoted` writes a text as a literal on one line: in single quotes, or in double quotes when the
text holds a single quote and no double one. The quote, the backslash and everything unprintable
are escaped, code points by their shortest of the forms `\xNN`, `\uNNNN` and `\UNNNNNNNN`.
-/

namespace RemoteBindings.Text

/-- The last `width` hexadecimal digits of a number, in lower case. -/
def hexDigits : Nat → Nat → List Char
  | 0, _ => []
  | width + 1, n => hexDigits width (n / 16) ++ [Nat.digitChar (n % 16)]

def escapeCode (c : Char) : List Char :=
  let n := c.toNat
  if n < 0x100 then '\\' :: 'x' :: hexDigits 2 n
  else if n < 0x10000 then '\\' :: 'u' :: hexDigits 4 n
  else '\\' :: 'U' :: hexDigits 8 n

def escapeChar (quote c : Char) : List Char :=
  if c = quote ∨ c = '\\' then ['\\', c]
  else if c = '\n' then ['\\', 'n']
  else if c = '\r' then ['\\', 'r']
  else if c = '\t' then ['\\', 't']
  else if isPrintable c then [c]
  else escapeCode c

def quoteFor (cs : List Char) : Char :=
  if cs.contains '\'' && !cs.contains '"' then '"' else '\''

def quoted (s : String) : String :=
  let quote := quoteFor s.toList
  String.ofList (quote :: (s.toList.flatMap (escapeChar quote) ++ [quote]))

/-- A byte string as a literal with the mark `b`; everything beyond ASCII is escaped. -/
def quotedBytes (bytes : List UInt8) : String :=
  let cs := bytes.map fun b => Char.ofNat b.toNat
  let quote := quoteFor cs
  let escape (c : Char) : List Char := if c.toNat < 0x7F then escapeChar quote c else escapeCode c
  String.ofList ('b' :: quote :: (cs.flatMap escape ++ [quote]))

end RemoteBindings.Text
