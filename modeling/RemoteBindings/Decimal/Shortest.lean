/-!
# Fewest decimal digits

A finite binary64 value is `mantissa * 2 ^ exponent` (`Binary.ofBits`), and the reals that round to
it form an interval. `Binary.shortest` tries grids of powers of ten from coarse to fine and keeps
the first whose point next to the value lies in the interval (`Binary.onGrid?`); of two such
points it takes the nearer, and the even one at a tie. All arithmetic is exact.
-/

namespace RemoteBindings.Decimal

/-- The size of a finite binary64 value. `narrow` holds where the gap to the value below is half
the gap to the value above. -/
structure Binary where
  mantissa : Nat
  exponent : Int
  narrow : Bool
deriving Repr, DecidableEq

/-- Reads the bits of a finite value, without its sign. -/
def Binary.ofBits (bits : UInt64) : Binary :=
  let e := ((bits >>> 52) &&& 0x7FF).toNat
  let f := (bits &&& 0xFFFFFFFFFFFFF).toNat
  if e = 0 then ⟨f, -1074, false⟩ else ⟨0x10000000000000 + f, e - 1075, f = 0 ∧ 1 < e⟩

/-- The decimal number `digits * 10 ^ exponent`. -/
structure Number where
  digits : Nat
  exponent : Int
deriving Repr, DecidableEq

/-- The value in quarters of its last binary place, in units of `1 / down` of the decimal grid
`10 ^ e`: a quarter is `up / down` grid steps. -/
def Binary.gridScale (x : Binary) (e : Int) : Nat × Nat :=
  let i := x.exponent - 2
  (Nat.pow 2 i.toNat * Nat.pow 10 (-e).toNat, Nat.pow 2 (-i).toNat * Nat.pow 10 e.toNat)

/-- The point of the grid `10 ^ e` next to `x`, if it rounds to `x`. -/
def Binary.onGrid? (x : Binary) (e : Int) : Option Number :=
  let (up, down) := x.gridScale e
  let value := 4 * x.mantissa * up
  let low := (4 * x.mantissa - if x.narrow then 1 else 2) * up
  let high := (4 * x.mantissa + 2) * up
  let closed := x.mantissa % 2 = 0
  let fits (d : Nat) : Bool :=
    (low < d * down || (closed && low = d * down)) &&
      (d * down < high || (closed && d * down = high))
  let d := value / down
  let lowerIsNearer :=
    match compare (2 * value) ((2 * d + 1) * down) with
    | .lt => true
    | .gt => false
    | .eq => d % 2 = 0
  let near := if lowerIsNearer then d else d + 1
  let far := if lowerIsNearer then d + 1 else d
  if fits near then some ⟨near, e⟩ else if fits far then some ⟨far, e⟩ else none

/-- The least `k` with `x < 10 ^ k`, searched about the estimate that the binary logarithm gives. -/
def Binary.decimalPlaces (x : Binary) : Int :=
  let guess := ((x.mantissa.log2 : Int) + x.exponent) * 30103 / 100000
  let isBelow (k : Int) : Bool :=
    x.mantissa * Nat.pow 2 x.exponent.toNat * Nat.pow 10 (-k).toNat <
      Nat.pow 10 k.toNat * Nat.pow 2 (-x.exponent).toNat
  (([guess - 1, guess, guess + 1, guess + 2] : List Int).find? isBelow).getD (guess + 3)

/-- Moves trailing zeros of the digits into the exponent, at most `fuel` of them. -/
def Number.strip (d : Number) : Nat → Number
  | 0 => d
  | fuel + 1 =>
    if d.digits % 10 = 0 ∧ d.digits ≠ 0 then Number.strip ⟨d.digits / 10, d.exponent + 1⟩ fuel
    else d

/-- All digits of `x`. -/
def Binary.exact (x : Binary) : Number :=
  ⟨x.mantissa * Nat.pow 2 x.exponent.toNat * Nat.pow 5 (-x.exponent).toNat, -(-x.exponent).toNat⟩

/-- The fewest digits that read back to `x`; seventeen always do. -/
def Binary.shortest (x : Binary) : Number :=
  let k := x.decimalPlaces
  let found := (List.range 17).findSome? fun n => x.onGrid? (k - (n + 1 : Nat))
  (found.getD x.exact).strip 800

end RemoteBindings.Decimal
