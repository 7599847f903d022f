import RemoteBindings.Decimal.Shortest

/-!
# Written numbers

`floatText` writes a float with the fewest digits that identify it: positionally, and with at least
one digit after the point, when the leading digit stands for `10 ^ -4` to `10 ^ 15`, otherwise with
a signed exponent of at least two digits (`Number.layout`).
-/

namespace RemoteBindings.Decimal

/-- The most digits of an integer that is read or written in decimal notation. -/
def maxDigits : Nat := 4300

def zeros (n : Nat) : String := String.ofList (List.replicate n '0')

/-- An exponent with its sign and at least two digits. -/
def exponentText (e : Int) : String :=
  let ds := toString e.natAbs
  (if e < 0 then "-" else "+") ++ (if ds.length < 2 then "0" ++ ds else ds)

/-- Lays out a number other than zero. -/
def Number.layout (d : Number) : String :=
  let ds := (toString d.digits).toList
  let lead : Int := d.exponent + ds.length - 1
  if lead < -4 ∨ 16 ≤ lead then
    let tail := if ds.length ≤ 1 then "" else "." ++ String.ofList (ds.drop 1)
    String.ofList (ds.take 1) ++ tail ++ "e" ++ exponentText lead
  else if lead < 0 then
    "0." ++ zeros (-lead - 1).toNat ++ String.ofList ds
  else
    let whole := (lead + 1).toNat
    if ds.length ≤ whole then String.ofList ds ++ zeros (whole - ds.length) ++ ".0"
    else String.ofList (ds.take whole) ++ "." ++ String.ofList (ds.drop whole)

def floatText (x : Float) : String :=
  if x.isNaN then "nan"
  else
    let sign := if x.toBits >>> 63 = 1 then "-" else ""
    if x.isInf then sign ++ "inf"
    else
      let b := Binary.ofBits x.toBits
      sign ++ if b.mantissa = 0 then "0.0" else b.shortest.layout

/-- The integer that a float is, if it is one. -/
def wholeValue? (x : Float) : Option Int :=
  if x.isNaN || x.isInf then none
  else
    let b := Binary.ofBits x.toBits
    let down := Nat.pow 2 (-b.exponent).toNat
    let n := b.mantissa * Nat.pow 2 b.exponent.toNat
    if n % down = 0 then some (if x.toBits >>> 63 = 1 then -(n / down : Nat) else (n / down : Nat))
    else none

/-- The float nearest to `digits * 10 ^ exponent`, an infinity if it is too large. Numbers from
`10 ^ 310` up are infinite and those below `10 ^ -330` are zero, however long their exponents. -/
def Number.toFloat (d : Number) (negative : Bool) : Float :=
  let places : Int := d.exponent + (toString d.digits).length
  let x :=
    if d.digits = 0 ∨ places < -330 then 0.0
    else if 310 < places then 1.0 / 0.0
    else Float.ofScientific d.digits (d.exponent < 0) d.exponent.natAbs
  if negative then -x else x

end RemoteBindings.Decimal
