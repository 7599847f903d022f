import RemoteBindings.Text.Blank

/-!
# Paths

A path is text whose parts are separated by slashes. `Path.ofText` drops empty parts and single
dots, `Path.text` writes a path, and `Path.resolve` makes it absolute without dots.
-/

namespace RemoteBindings

/-- The start of a path: nothing, one slash, or exactly two, which are kept apart. -/
inductive PathRoot where
  | relative
  | single
  | double
deriving Repr, DecidableEq

structure Path where
  root : PathRoot
  parts : List String
deriving Repr, DecidableEq

namespace Path

def rootOf (cs : List Char) : PathRoot :=
  match (cs.takeWhile (· == '/')).length with
  | 0 => .relative
  | 2 => .double
  | _ => .single

def ofText (s : String) : Path :=
  let parts := (Text.splitAtChars (· == '/') s.toList).map String.ofList
  ⟨rootOf s.toList, parts.filter fun p => p != "" && p != "."⟩

def rootText : PathRoot → String
  | .relative => ""
  | .single => "/"
  | .double => "//"

def text (p : Path) : String :=
  if p.root = .relative ∧ p.parts = [] then "."
  else rootText p.root ++ String.intercalate "/" p.parts

/-- The last part of a path. -/
def name (p : Path) : String := p.parts.getLast?.getD ""

/-- Whether the last part ends in an ending, with something before it. -/
def hasEnding (ending : String) (p : Path) : Bool :=
  p.name != ending && ending.toList.isSuffixOf p.name.toList

/-- Whether there can be such a path: none holds a null character. -/
def isPossible (p : Path) : Bool := p.parts.all fun part => !part.toList.contains '\x00'

/-- A path seen from a directory. -/
def within (base p : Path) : Path :=
  match p.root with
  | .relative => ⟨base.root, base.parts ++ p.parts⟩
  | _ => p

/-- Follows the parts from the root; two dots lead back, but not beyond it. -/
def follow : List String → List String → List String
  | done, [] => done.reverse
  | done, ".." :: ps => follow (done.drop 1) ps
  | done, p :: ps => follow (p :: done) ps

/-- The absolute path without dots, seen from a directory. -/
def resolve (base p : Path) : Path :=
  let whole := base.within p
  ⟨whole.root, follow [] whole.parts⟩

end Path

end RemoteBindings
