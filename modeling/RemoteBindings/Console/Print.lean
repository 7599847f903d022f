import RemoteBindings.Console.Markup
import RemoteBindings.Console.Wrap

/-!
# Printed text and tables

What is printed is read as markup, and has its tabs filled up. `printed` gives the lines of a text,
`Table.printed` those of a table whose columns are as wide as their widest cell asks for.
-/

namespace RemoteBindings.Console

abbrev Printed := Except MarkupFault String

def joinLines (ls : List (List Char)) : String :=
  String.join (ls.map fun l => String.ofList l ++ "\n")

def printed (s : String) : Printed := do
  let lines := (← markedText s).lines.map MarkedText.expandTabs
  lines.forM checkStyles
  return joinLines (lines.map MarkedText.chars)

/-! ## Tables -/

/-- A column: its title and its cells. -/
structure Column where
  title : String
  cells : List String
deriving Repr, DecidableEq

abbrev Table := List Column

/-- A column as it is shown: the lines of its title and of its cells. -/
structure ShownColumn where
  width : Nat
  title : List MarkedText
  cells : List (List MarkedText)
deriving Repr, DecidableEq

/-- The columns are read one after the other, each from the title down. -/
def Column.shown (c : Column) : Except MarkupFault ShownColumn := do
  let title ← markedText c.title
  let cells ← c.cells.mapM markedText
  let width := ((title :: cells).map MarkedText.width).foldl max 0
  return ⟨width, title.wrapped width, cells.map (MarkedText.wrapped width)⟩

/-- The line of a row at a height, its cells parted by a rule. -/
def rowLine (rule : Char) (row : List (Nat × List MarkedText)) (height : Nat) : List Char :=
  let part := fun (width, lines) => match lines[height]? with
    | some line => cellLine width line
    | none => spaces (width + 2)
  ((row.map part).intersperse [rule]).flatten

def rowLines (rule : Char) (row : List (Nat × List MarkedText)) : List (List Char) :=
  let height := (row.map fun cell => cell.2.length).foldl max 1
  (List.range height).map (rowLine rule row)

/-- The line between titles and rows. -/
def headLine (widths : List Nat) : List Char :=
  (widths.map fun width => List.replicate (width + 2) '━').intersperse ['╇'] |>.flatten

def Table.printed (t : Table) : Printed := do
  let columns ← t.mapM Column.shown
  columns.forM fun c => (c.title :: c.cells).forM fun lines => lines.forM checkStyles
  let titles := rowLines '┃' (columns.map fun c => (c.width, c.title))
  let count := (columns.map fun c => c.cells.length).foldl max 0
  let rows := (List.range count).flatMap fun n =>
    rowLines '│' (columns.map fun c => (c.width, c.cells.getD n []))
  return joinLines (titles ++ headLine (columns.map ShownColumn.width) :: rows)

end RemoteBindings.Console
