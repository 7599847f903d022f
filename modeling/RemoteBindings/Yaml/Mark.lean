/-!
# Places in a YAML text

A `Mark` names a character of a text by its index, its line and its column, all counted from zero.
`Mark.shown` shows the place for a report: line and column, the part of the line around the
character (`excerpt`), and a caret below it.
-/

namespace RemoteBindings.Yaml

/-- What is read beyond the end of a text, which may not hold it. -/
def endMark : Char := '\x00'

/-- The characters that end a line, apart from the end of the text. -/
def isBreak (c : Char) : Bool := c == '\n' || c == '\u0085' || c == '\u2028' || c == '\u2029'

def isLineEnd (c : Char) : Bool := isBreak c || c == endMark

structure Mark where
  index : Nat := 0
  line : Nat := 0
  column : Nat := 0
deriving Repr, DecidableEq, Inhabited

namespace Mark

/-- A side of an excerpt that is longer than this is cut. -/
def sideLimit : Nat := 36

/-- What is left of a side that is cut. -/
def cutSide : Nat := 32

def ellipsis : List Char := " ... ".toList

/-- The characters next to a place, those on one side of it, nearest first. -/
def side (cs : List Char) : List Char × Bool :=
  let whole := cs.takeWhile fun c => !isLineEnd c
  if sideLimit < whole.length then (whole.take cutSide, true) else (whole, false)

/-- The part of the line before the place and that from it on. -/
def excerpt (m : Mark) (cs : List Char) : List Char × List Char :=
  let (before, cutBefore) := side (cs.take m.index).reverse
  let (after, cutAfter) := side (cs.drop m.index)
  ((if cutBefore then ellipsis else []) ++ before.reverse,
    after ++ if cutAfter then ellipsis else [])

/-- The lines that show a place in a text. -/
def shown (m : Mark) (cs : List Char) : List String :=
  let (before, after) := m.excerpt cs
  let spaces := List.replicate 4 ' '
  ["  in \"<unicode string>\", line " ++ toString (m.line + 1) ++ ", column " ++
      toString (m.column + 1) ++ ":",
    String.ofList (spaces ++ before ++ after),
    String.ofList (spaces ++ List.replicate before.length ' ' ++ ['^'])]

end Mark

end RemoteBindings.Yaml
