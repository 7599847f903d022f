/-!
# Faults in UTF-8

`utf8Fault?` finds the first bytes of a list that encode no character, and says why they do not.
-/

namespace RemoteBindings.Text

inductive Utf8Reason where
  | start
  | continuation
  /-- The list ends within a character. -/
  | ending
deriving Repr, DecidableEq

/-- A number of bytes from an index on that are wrong. -/
structure Utf8Fault where
  index : Nat
  count : Nat
  first : UInt8
  reason : Utf8Reason
deriving Repr, DecidableEq

/-- The ranges of the bytes that follow a first byte, if it is one. -/
def continuations? (first : UInt8) : Option (List (UInt8 × UInt8)) :=
  let any : UInt8 × UInt8 := (0x80, 0xBF)
  if first < 0x80 then some []
  else if first < 0xC2 then none
  else if first < 0xE0 then some [any]
  else if first < 0xF0 then
    some [if first = 0xE0 then (0xA0, 0xBF) else if first = 0xED then (0x80, 0x9F) else any, any]
  else if first < 0xF5 then
    some [if first = 0xF0 then (0x90, 0xBF) else if first = 0xF4 then (0x80, 0x8F) else any,
      any, any]
  else none

/-- The number of bytes that lie in their ranges, from the first one on. -/
def countInRange : List (UInt8 × UInt8) → List UInt8 → Nat
  | (low, high) :: ranges, b :: bs =>
    if low ≤ b ∧ b ≤ high then countInRange ranges bs + 1 else 0
  | _, _ => 0

def utf8FaultFrom? (index : Nat) : List UInt8 → Option Utf8Fault
  | [] => none
  | b :: bs =>
    match continuations? b with
    | none => some ⟨index, 1, b, .start⟩
    | some ranges =>
      let count := countInRange ranges bs
      if count = ranges.length then utf8FaultFrom? (index + 1 + count) (bs.drop count)
      else some ⟨index, count + 1, b, if count = bs.length then .ending else .continuation⟩
termination_by bs => bs.length
decreasing_by simp only [List.length_drop, List.length_cons]; omega

def utf8Fault? (bytes : List UInt8) : Option Utf8Fault := utf8FaultFrom? 0 bytes

end RemoteBindings.Text
