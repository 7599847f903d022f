import RemoteBindings.Yaml.Mark
import RemoteBindings.Yaml.Token

/-!
# What can be wrong with YAML text

A `Defect` is something that does not belong where it stands, together with what was being read
there. The other problems are a character that no text may hold, and scalars whose form promises a
value that does not exist.
-/

namespace RemoteBindings.Yaml

/-! ## What was being read -/

inductive Stage where
  | scanning
  | parsing
  | constructing
deriving Repr, DecidableEq

inductive Subject where
  | simpleKey
  | directive
  | alias
  | anchor
  | tag
  | blockScalar
  | quotedScalar
  | doubleQuotedScalar
  | node
  | blockNode
  | flowNode
  | blockCollection
  | blockMapping
  | flowSequence
  | flowMapping
  | mapping
  | orderedMap
  | pairs
deriving Repr, DecidableEq

inductive Context where
  | none
  | nextToken
  | reading (stage : Stage) (subject : Subject) (start : Mark)
  /-- Behind a document that is complete. -/
  | behindDocument (start : Mark)
  /-- At an anchor that a node has already. -/
  | repeating (anchor : String) (start : Mark)
deriving Repr, DecidableEq

/-! ## What is wrong -/

inductive NodeKind where
  | scalar
  | sequence
  | mapping
deriving Repr, DecidableEq

/-- What belongs in a place. -/
inductive Expected where
  | nameCharacter
  | digit
  | digitOr (c : Char)
  | character (c : Char)
  /-- The characters of a tag. -/
  | uri
  /-- The two digits of a byte in a tag. -/
  | byteDigits
  | codeDigits (width : Nat)
  /-- A stated indentation of at least one. -/
  | increment
  /-- The indicators of a block scalar. -/
  | indicators
  | lineEnd
  | documentStart
  | content
  | blockEnd
  /-- A comma or the end of a flow collection. -/
  | commaOr (c : Char)
  | nodeOf (kind : NodeKind)
  /-- The items of a list of pairs. -/
  | sequence
  /-- A mapping in place of a pair. -/
  | pair
  /-- The one entry of a pair. -/
  | pairEntry
  /-- What may be merged into a mapping. -/
  | merged
  | mergedItem
deriving Repr, DecidableEq

inductive Found where
  | character (c : Char)
  | zero
  /-- A token, or none at the end of the text. -/
  | token (t : Option Token)
  | node (kind : NodeKind)
  | entries (count : Nat)
deriving Repr, DecidableEq

/-- Why a text is no binary value. -/
inductive BinaryFault where
  /-- There are characters beyond ASCII. -/
  | notAscii (text : String)
  /-- One digit is left over behind the groups of four before it. -/
  | lostDigit (groups : Nat)
  | padding
deriving Repr, DecidableEq

inductive Cause where
  | expected (what : Expected) (found : Found)
  | noToken (c : Char)
  | noColon
  /-- An item, a key or a value where none may begin. -/
  | misplaced (t : Token)
  | unknownEscape (c : Char)
  | endOfText
  | documentMark
  /-- The bytes that are given in a tag are no text. -/
  | noText (bytes : List UInt8)
  | repeatedVersion
  | foreignVersion
  | repeatedHandle (handle : String)
  | unknownHandle (handle : String)
  | unknownAlias (name : String)
  | repeatedAnchor
  | secondDocument
  | collectionKey
  | unknownTag (name : String)
  | noBinary (f : BinaryFault)
deriving Repr, DecidableEq

/-- What is wrong in a place. -/
structure Defect where
  context : Context
  cause : Cause
  place : Mark
deriving Repr, DecidableEq

inductive Problem where
  | defect (d : Defect)
  /-- A character that no text may hold, by its index. -/
  | forbidden (c : Char) (index : Nat)
  /-- A number, a date or a character that does not exist. -/
  | badValue
  /-- A character code or a place of a number beyond every range. -/
  | outOfRange
  /-- An empty scalar in place of a number. -/
  | emptyNumber
  /-- A scalar that is no truth value where one is required. -/
  | unknownTruth
  /-- A scalar that is no date where one is required. -/
  | unknownMoment
  /-- A mapping with a default value where a date is required. -/
  | nestedMoment
  /-- A mapping whose default value is that mapping itself. -/
  | endlessDefault
  /-- A bound on the steps of the reader was too small; the bounds here are large enough. -/
  | outOfFuel
deriving Repr, DecidableEq

abbrev Result (α : Type) := Except Problem α

def refuse {α : Type} (context : Context) (cause : Cause) (place : Mark) : Result α :=
  .error (.defect ⟨context, cause, place⟩)

end RemoteBindings.Yaml
