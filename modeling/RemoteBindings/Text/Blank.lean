import RemoteBindings.Text.Ranges

/-!
# White space

The white space of Unicode together with the four information separators, and the two operations
that use it: `trimBlank` and `splitBlank`.
-/

namespace RemoteBindings.Text

def blankRanges : Ranges :=
  [(0x09, 0x0D), (0x1C, 0x20), (0x85, 0x85), (0xA0, 0xA0), (0x1680, 0x1680), (0x2000, 0x200A),
   (0x2028, 0x2029), (0x202F, 0x202F), (0x205F, 0x205F), (0x3000, 0x3000)]

def isBlank (c : Char) : Bool := blankRanges.contains c

/-- Removes the characters that satisfy `p` from the end. -/
def dropEndWhile (p : Char → Bool) (cs : List Char) : List Char :=
  (cs.reverse.dropWhile p).reverse

def trimBlankChars (cs : List Char) : List Char := dropEndWhile isBlank (cs.dropWhile isBlank)

def trimBlank (s : String) : String := String.ofList (trimBlankChars s.toList)

/-- Cuts at every character that satisfies `p`; neighbouring cuts leave empty pieces. -/
def splitAtChars (p : Char → Bool) : List Char → List (List Char)
  | [] => [[]]
  | c :: cs =>
    if p c then [] :: splitAtChars p cs
    else match splitAtChars p cs with
      | [] => [[c]]
      | piece :: pieces => (c :: piece) :: pieces

/-- The maximal runs of characters that are not white space. -/
def splitBlank (s : String) : List String :=
  ((splitAtChars isBlank s.toList).filter fun piece => !piece.isEmpty).map String.ofList

end RemoteBindings.Text
