import RemoteBindings.Decimal.Notation
import RemoteBindings.Value.Basic

/-!
# Equality of values

`Value.same` compares values by what they denote: truth values are the numbers 0 and 1, an integer
equals the float of the same value, the order of a mapping or a set does not count, and two moments
with known offsets are compared in universal time. A list never equals a tuple. It is the equality
of mapping keys (`Value.mapOfList`).
-/

namespace RemoteBindings

/-- Days from 1 March of year 0 to a date, in the proleptic Gregorian calendar. -/
def Date.dayNumber (d : Date) : Int :=
  let y : Int := if d.month ≤ 2 then (d.year : Int) - 1 else d.year
  let m : Int := if d.month ≤ 2 then d.month + 9 else (d.month : Int) - 3
  365 * y + Int.fdiv y 4 - Int.fdiv y 100 + Int.fdiv y 400 + (153 * m + 2) / 5 + (d.day - 1)

/-- Microseconds on the clock of a timestamp, or in universal time if its offset is known. -/
def Timestamp.instant (t : Timestamp) : Int :=
  let minutes : Int := (t.date.dayNumber * 24 + t.hour) * 60 + t.minute - t.offset.getD 0
  (minutes * 60 + t.second) * 1000000 + t.microsecond

def Timestamp.same (a b : Timestamp) : Bool :=
  a.offset.isSome == b.offset.isSome && a.instant == b.instant

namespace Value

/-- The integer that a truth value or an integer stands for. -/
def integer? : Value → Option Int
  | bool b => some (if b then 1 else 0)
  | int n => some n
  | _ => none

/-- Equality of two numbers; `none` if one of the values is no number. -/
def sameNumber? (a b : Value) : Option Bool :=
  match a, b with
  | float x, float y => some (x == y)
  | float x, b => b.integer?.map fun n => Decimal.wholeValue? x == some n
  | a, float y => a.integer?.map fun n => Decimal.wholeValue? y == some n
  | a, b => match a.integer?, b.integer? with
    | some m, some n => some (m == n)
    | _, _ => none

mutual

def same : Value → Value → Bool
  | null, null => true
  | text s, text t => s == t
  | bytes s, bytes t => s == t
  | date a, date b => a == b
  | timestamp a, timestamp b => a.same b
  | list xs, list ys => sameItems xs ys
  | tuple xs, tuple ys => sameItems xs ys
  | set xs, set ys => xs.length == ys.length && subset xs ys
  | map xs, map ys => xs.length == ys.length && subentries xs ys
  | function f, function g => f == g
  | nan a, nan b => a == b
  | knot a x, knot b y => a == b && same x y
  | again a _, again b _ => a == b
  | endpoint v p xs, endpoint w q ys =>
    v == w && p == q && xs.length == ys.length && subfields xs ys
  | property t i g r xs, property u j h s ys =>
    same t u && same i j && g == h && r == s && xs.length == ys.length && subfields xs ys
  | a, b => (sameNumber? a b).getD false

def sameItems : List Value → List Value → Bool
  | [], [] => true
  | x :: xs, y :: ys => same x y && sameItems xs ys
  | _, _ => false

def subset : List Value → List Value → Bool
  | [], _ => true
  | x :: xs, ys => ys.any (fun y => same x y) && subset xs ys

def subentries : List (Value × Value) → List (Value × Value) → Bool
  | [], _ => true
  | (k, v) :: xs, ys => ys.any (fun y => same k y.1 && same v y.2) && subentries xs ys

def subfields : List (String × Value) → List (String × Value) → Bool
  | [], _ => true
  | (k, v) :: xs, ys => ys.any (fun y => k == y.1 && same v y.2) && subfields xs ys

end

instance : BEq Value := ⟨same⟩

/-- The mapping made by putting entries one after the other. -/
def mapOfList (es : List (Value × Value)) : Value := map (Entries.ofList es)

end Value

end RemoteBindings
