import RemoteBindings.Console.WidthTable

/-!
# Width of text on a terminal

A character takes one cell of a terminal, two if it is wide, or none (`charWidth`). Two characters
change what their neighbours take: a joiner makes one picture of the characters beside it, and a
picture selector widens the sign before it. `cellWidth` adds up a text, and `fitCells` brings a text
to a width without parting what belongs together (`Cluster`).
-/

namespace RemoteBindings.Console

def charWidth (c : Char) : Nat :=
  if emptyRanges.contains c then 0 else if wideRanges.contains c then 2 else 1

/-- Joins the pictures before and behind it. -/
def joiner : Char := '\u200D'

/-- Makes a picture of the sign before it. -/
def pictureSelector : Char := '\uFE0F'

/-- What the picture selector adds to the sign before it. -/
def widening : Option Char → Nat
  | some c => if signRanges.contains c then 1 else 0
  | none => 0

/-- The cells of a text behind a character that takes some; what a joiner joins takes none. -/
def cellWidthAfter (last : Option Char) : List Char → Nat
  | [] => 0
  | c :: cs =>
    if c = joiner then
      match cs with
      | [] => 0
      | _ :: cs => cellWidthAfter last cs
    else if c = pictureSelector then widening last + cellWidthAfter none cs
    else if charWidth c = 0 then cellWidthAfter last cs
    else charWidth c + cellWidthAfter (some c) cs

/-- The number of cells that a text takes. -/
def cellWidth (cs : List Char) : Nat := cellWidthAfter none cs

/-! ## Cutting -/

/-- Characters that are not parted, and the cells that they take together. -/
structure Cluster where
  chars : List Char
  width : Nat
deriving Repr, DecidableEq

/-- Adds to a cluster what takes no cell of its own. -/
def Cluster.extend (k : Cluster) (cs : List Char) (width : Nat) : Cluster :=
  ⟨k.chars ++ cs, k.width + width⟩

/-- The clusters of a text of which `current` is the first, begun before; `last` is its sign that a
selector can still widen. -/
def clustersAfter (current : Cluster) (last : Option Char) : List Char → List Cluster
  | [] => [current]
  | c :: cs =>
    if c = joiner then
      match cs with
      | [] => [current.extend [c] 0]
      | d :: cs => clustersAfter (current.extend [c, d] 0) last cs
    else if c = pictureSelector then
      clustersAfter (current.extend [c] (widening last))
        (if widening last = 0 then last else none) cs
    else if charWidth c = 0 then clustersAfter (current.extend [c] 0) last cs
    else current :: clustersAfter ⟨[c], charWidth c⟩ (some c) cs

def clusters : List Char → List Cluster
  | [] => []
  | c :: cs =>
    if c = joiner || c = pictureSelector || charWidth c = 0 then clustersAfter ⟨[c], 0⟩ none cs
    else clustersAfter ⟨[c], charWidth c⟩ (some c) cs

/-- The clusters that fit into a width; a space fills the cell that a wide one would need half
of. -/
def takeClusters (width : Nat) : List Cluster → List Char
  | [] => []
  | k :: ks =>
    if width = 0 then []
    else if width < k.width then [' ']
    else k.chars ++ takeClusters (width - k.width) ks

def spaces (n : Nat) : List Char := List.replicate n ' '

/-- The text with spaces behind it, or cut, so that it takes the given cells. -/
def fitCells (width : Nat) (cs : List Char) : List Char :=
  if cellWidth cs ≤ width then cs ++ spaces (width - cellWidth cs)
  else takeClusters width (clusters cs)

end RemoteBindings.Console
