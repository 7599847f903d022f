import RemoteBindings.Text.Digits
import RemoteBindings.Value.Basic
import RemoteBindings.Yaml.Cursor
import RemoteBindings.Yaml.Problem

/-!
# Dates and times in scalars

`readMoment?` reads a date, perhaps with a time of day and an offset, as it is written; whether
there is such a day is left to `Moment.toValue`. A plain scalar without a time needs two digits for
month and day (`isMoment`).
-/

namespace RemoteBindings.Yaml

/-- The clock of a moment as it is written; the offset is its sign, hours and minutes. -/
structure Clock where
  hour : Nat
  minute : Nat
  second : Nat
  fraction : List Char
  offset : Option (Bool × Nat × Nat)
deriving Repr, DecidableEq

structure Moment where
  year : Nat
  month : Nat
  day : Nat
  /-- Whether month and day have two digits each. -/
  isPadded : Bool
  clock : Option Clock
deriving Repr, DecidableEq

/-- Reads from `least` to `most` digits, as many as there are. -/
def takeNumber? (least most : Nat) (cs : List Char) : Option (Nat × Nat × List Char) :=
  let ds := (cs.take most).takeWhile Char.isDigit
  if ds.length < least then none
  else some (Text.digitsValue 10 ds, ds.length, cs.drop ds.length)

/-- Passes a given character. -/
def expect? (x : Char) : List Char → Option (List Char)
  | [] => none
  | c :: cs => if c = x then some cs else none

/-- The minutes of an offset, which may be left out. -/
def takeOffsetMinutes? : List Char → Option (Nat × List Char)
  | ':' :: cs => (takeNumber? 2 2 cs).map fun (n, _, cs) => (n, cs)
  | cs => some (0, cs)

/-- The offset at the end of a clock, behind gaps; no value inside for none at all. -/
def readOffset? (cs : List Char) : Option (Option (Bool × Nat × Nat)) :=
  match cs.dropWhile isGap with
  | [] => if cs.isEmpty then some none else none
  | ['Z'] => some (some (false, 0, 0))
  | sign :: cs =>
    if sign = '-' ∨ sign = '+' then do
      let (hours, _, cs) ← takeNumber? 1 2 cs
      let (minutes, cs) ← takeOffsetMinutes? cs
      if cs.isEmpty then some (some (sign == '-', hours, minutes)) else none
    else none

def takeFraction : List Char → List Char × List Char
  | '.' :: cs => (cs.takeWhile Char.isDigit, cs.dropWhile Char.isDigit)
  | cs => ([], cs)

def readClock? (cs : List Char) : Option Clock := do
  let (hour, _, cs) ← takeNumber? 1 2 cs
  let cs ← expect? ':' cs
  let (minute, _, cs) ← takeNumber? 2 2 cs
  let cs ← expect? ':' cs
  let (second, _, cs) ← takeNumber? 2 2 cs
  let (fraction, cs) := takeFraction cs
  let offset ← readOffset? cs
  some ⟨hour, minute, second, fraction, offset⟩

/-- What separates a date from its clock, or nothing. -/
def readRest? : List Char → Option (Option Clock)
  | [] => some none
  | c :: cs =>
    if c = 'T' ∨ c = 't' then (readClock? cs).map some
    else if isGap c then (readClock? (cs.dropWhile isGap)).map some
    else none

def readMoment? (cs : List Char) : Option Moment := do
  let (year, _, cs) ← takeNumber? 4 4 cs
  let cs ← expect? '-' cs
  let (month, monthWidth, cs) ← takeNumber? 1 2 cs
  let cs ← expect? '-' cs
  let (day, dayWidth, cs) ← takeNumber? 1 2 cs
  let clock ← readRest? cs
  some ⟨year, month, day, monthWidth == 2 && dayWidth == 2, clock⟩

/-- Whether a plain scalar is a moment. -/
def isMoment (cs : List Char) : Bool :=
  match readMoment? cs with
  | none => false
  | some m => m.isPadded || m.clock.isSome

def isLeap (year : Nat) : Bool := year % 4 = 0 && (year % 100 != 0 || year % 400 = 0)

def daysOf (year month : Nat) : Nat :=
  if month = 2 then (if isLeap year then 29 else 28)
  else if [4, 6, 9, 11].contains month then 30
  else 31

def Moment.date? (m : Moment) : Option Date :=
  if 1 ≤ m.year ∧ 1 ≤ m.month ∧ m.month ≤ 12 ∧ 1 ≤ m.day ∧ m.day ≤ daysOf m.year m.month then
    some ⟨m.year, m.month, m.day⟩
  else none

/-- An offset in minutes, which must be less than a day. -/
def offsetMinutes? : Bool × Nat × Nat → Option Int
  | (negative, hours, minutes) =>
    let n := 60 * hours + minutes
    if n < 1440 then some (if negative then -n else n) else none

/-- The first six digits of a fraction of a second. -/
def microseconds (fraction : List Char) : Nat :=
  Text.digitsValue 10 ((fraction ++ List.replicate 6 '0').take 6)

def Clock.timestamp? (c : Clock) (date : Date) : Option Timestamp :=
  if c.hour < 24 ∧ c.minute < 60 ∧ c.second < 60 then
    let whole (offset : Option Int) : Timestamp :=
      ⟨date, c.hour, c.minute, c.second, microseconds c.fraction, offset⟩
    match c.offset with
    | none => some (whole none)
    | some o => (offsetMinutes? o).map fun n => whole (some n)
  else none

/-- The value of a moment, if there is such a day and time. -/
def Moment.toValue (m : Moment) : Result Value :=
  match m.date? with
  | none => .error .badValue
  | some date => match m.clock with
    | none => .ok (.date date)
    | some clock => match clock.timestamp? date with
      | none => .error .badValue
      | some t => .ok (.timestamp t)

end RemoteBindings.Yaml
