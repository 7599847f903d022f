import RemoteBindings.Console.Width
import RemoteBindings.Text.Blank

/-!
# Text with styled stretches

A `MarkedText` is a text and the stretches of it that have a style (`Span`). It can be parted
(`divide`, `lines`) and cut (`crop`), and the spans follow. `segments` gives the runs of the text in
which no span begins or ends: a terminal measures each of them for itself.
-/

namespace RemoteBindings.Console

/-- A stretch of a text, from one offset up to another, and its style. -/
structure Span where
  start : Nat
  stop : Nat
  style : String
deriving Repr, DecidableEq

def Span.shift (n : Nat) (s : Span) : Span := { s with start := s.start + n, stop := s.stop + n }

/-- What is left of a span between two offsets, counted from the first one. -/
def Span.clip? (first last : Nat) (s : Span) : Option Span :=
  let clipped := { s with start := s.start - first, stop := min s.stop last - first }
  if clipped.start < clipped.stop then some clipped else none

structure MarkedText where
  chars : List Char := []
  spans : List Span := []
deriving Repr, DecidableEq

namespace MarkedText

def length (t : MarkedText) : Nat := t.chars.length

def append (t u : MarkedText) : MarkedText :=
  ⟨t.chars ++ u.chars, t.spans ++ u.spans.map (Span.shift t.length)⟩

/-- The text between two offsets. -/
def between (t : MarkedText) (first last : Nat) : MarkedText :=
  ⟨(t.chars.drop first).take (last - first), t.spans.filterMap (Span.clip? first last)⟩

/-- The parts of a text between ascending offsets. -/
def divide (t : MarkedText) (offsets : List Nat) : List MarkedText :=
  if offsets.isEmpty then [t]
  else List.zipWith t.between (0 :: offsets) (offsets ++ [t.length])

/-- The spans that begin before an offset, which they do not pass. -/
def spansBefore (t : MarkedText) (n : Nat) : List Span :=
  (t.spans.filter fun s => s.start < n).map fun s => { s with stop := min s.stop n }

/-- The first `n` characters. -/
def crop (t : MarkedText) (n : Nat) : MarkedText := ⟨t.chars.take n, t.spansBefore n⟩

/-- The text with other characters. -/
def withChars (t : MarkedText) (cs : List Char) : MarkedText :=
  ⟨cs, if cs.length < t.length then t.spansBefore cs.length else t.spans⟩

/-- Adds spaces; a span that reaches the end goes on over them. -/
def extend (t : MarkedText) (n : Nat) : MarkedText :=
  ⟨t.chars ++ spaces n, t.spans.map fun s => if t.length ≤ s.stop then { s with stop := s.stop + n }
    else s⟩

/-! ## Lines -/

/-- The offsets of a character, from `n` on. -/
def offsetsOf (c : Char) (n : Nat) : List Char → List Nat
  | [] => []
  | d :: ds => if d = c then n :: offsetsOf c (n + 1) ds else offsetsOf c (n + 1) ds

/-- The lines of a text. An empty one stands behind a line feed at the end. -/
def lines (t : MarkedText) : List MarkedText :=
  (t.divide ((offsetsOf '\n' 0 t.chars).flatMap fun n => [n, n + 1])).filter fun u =>
    u.chars != ['\n']

/-- Cuts before the characters whose offset satisfies `p`; the first character has the offset
`n`. -/
def cutBefore (p : Nat → Bool) (n : Nat) : List Char → List (List Char)
  | [] => []
  | c :: cs =>
    match cutBefore p (n + 1) cs with
    | [] => [[c]]
    | piece :: pieces => if p (n + 1) then [c] :: piece :: pieces else (c :: piece) :: pieces

/-- The parts of a text that are measured one by one. -/
def segments (t : MarkedText) : List (List Char) :=
  cutBefore (fun n => t.spans.any fun s => s.start == n || s.stop == n) 0 t.chars

/-! ## Tabs -/

def tabWidth : Nat := 8

/-- The cells from a column on to the next multiple of the width of a tab. -/
def toNextTab (column : Nat) : Nat := (tabWidth - column % tabWidth) % tabWidth

/-- Fills up the tab at the end of each part of a line that has reached a column. -/
def fillParts (column : Nat) : List MarkedText → MarkedText
  | [] => {}
  | part :: parts =>
    if part.chars.getLast? = some '\t' then
      let plain := { part with chars := part.chars.dropLast ++ [' '] }
      let reached := column + cellWidth plain.chars
      (plain.extend (toNextTab reached)).append
        (fillParts (reached + toNextTab reached) parts)
    else part.append (fillParts (column + cellWidth part.chars) parts)

/-- A line with spaces in the place of its tabs. -/
def expandTabs (t : MarkedText) : MarkedText :=
  let tabs := offsetsOf '\t' 0 t.chars
  if tabs.isEmpty then t else fillParts 0 (t.divide (tabs.map (· + 1)))

end MarkedText

end RemoteBindings.Console
