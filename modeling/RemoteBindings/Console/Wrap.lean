import RemoteBindings.Console.MarkedText

/-!
# Text in a column

Text in a column is broken into lines before words that would not fit, and what is still too long
ends in an ellipsis (`wrapped`). `cellLines` gives the lines of a cell, each as wide as its column.
-/

namespace RemoteBindings.Console

/-! ## Words -/

/-- Cuts before every word. -/
def wordBlocks : List Char → List (List Char)
  | [] => []
  | c :: cs =>
    match wordBlocks cs with
    | [] => [[c]]
    | block :: blocks =>
      if Text.isBlank c && !((block.head?.map Text.isBlank).getD true) then [c] :: block :: blocks
      else (c :: block) :: blocks

/-- The words of a line, each with the white space behind it, the first also with that before it. -/
def wordsWithGaps (cs : List Char) : List (List Char) :=
  match wordBlocks cs with
  | [] => []
  | block :: blocks =>
    if !block.all Text.isBlank then block :: blocks
    else match blocks with
      | [] => []
      | word :: words => (block ++ word) :: words

/-- The offsets of words at which a line begins. The words before `start` take `column` cells of the
line that goes on. A word that no line can hold begins one nevertheless. -/
def breaksFrom (width column start : Nat) : List (List Char) → List Nat
  | [] => []
  | word :: words =>
    let size := cellWidth (Text.dropEndWhile Text.isBlank word)
    let next := start + word.length
    if column + size ≤ width then breaksFrom width (column + cellWidth word) next words
    else if start ≠ 0 && (column ≠ 0 || width < size) then
      start :: breaksFrom width (cellWidth word) next words
    else if width < size then breaksFrom width (cellWidth word) next words
    else breaksFrom width column next words

/-! ## Lines -/

namespace MarkedText

/-- The text without white space at its end, as far as it has more characters than the width. -/
def trimEnd (width : Nat) (t : MarkedText) : MarkedText :=
  let blank := (t.chars.reverse.takeWhile Text.isBlank).length
  if t.length ≤ width || blank = 0 then t
  else t.crop (t.length - min blank (t.length - width))

/-- The text at a width: cut behind an ellipsis, or filled up with spaces. -/
def justify (width : Nat) (t : MarkedText) : MarkedText :=
  if width < cellWidth t.chars then t.withChars (fitCells (width - 1) t.chars ++ ['…'])
  else { t with chars := t.chars ++ spaces (width - cellWidth t.chars) }

/-- The lines of a text in a column. -/
def wrapped (width : Nat) (t : MarkedText) : List MarkedText :=
  t.lines.flatMap fun line =>
    let filled := line.expandTabs
    (filled.divide (breaksFrom width 0 0 (wordsWithGaps filled.chars))).map fun u =>
      (u.trimEnd width).justify width

/-- Whether a line ends at a character. -/
def endsLine (c : Char) : Bool :=
  ('\n' ≤ c && c ≤ '\r') || ('\x1c' ≤ c && c ≤ '\x1e') ||
    ['\u0085', '\u2028', '\u2029'].contains c

/-- The width of the column that a text asks for. -/
def width (t : MarkedText) : Nat :=
  ((Text.splitAtChars endsLine t.chars).map cellWidth).foldl max 0

end MarkedText

/-! ## Cells -/

/-- The segments of a line that fit into some cells; the last one is cut or filled up. -/
def cropSegments (width : Nat) : List (List Char) → List (List Char)
  | [] => []
  | s :: ss =>
    if cellWidth s < width then s :: cropSegments (width - cellWidth s) ss else [fitCells width s]

/-- Brings the segments of a line to a width. -/
def fitSegments (width : Nat) (segments : List (List Char)) : List (List Char) :=
  let total := segments.foldl (fun n s => n + cellWidth s) 0
  if total < width then segments ++ [spaces (width - total)]
  else if width < total then cropSegments width segments
  else segments

/-- A line in a cell: with a space on both sides. -/
def cellLine (width : Nat) (line : MarkedText) : List Char :=
  (fitSegments (width + 2) ([' '] :: fitSegments width line.segments ++ [[' ']])).flatten

end RemoteBindings.Console
