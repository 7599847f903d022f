import RemoteBindings.Text.Position

/-!
# What can be wrong with JSON text

An `Error` is a `Problem` at the index of a character. `Error.message` words it and adds the place.
-/

namespace RemoteBindings.Json

inductive Problem where
  | expectingValue
  | expectingName
  | expectingColon
  | expectingComma
  /-- A string that never ends, reported at its opening quote. -/
  | unterminatedString
  | controlCharacter
  | unknownEscape
  | malformedCodeEscape
  /-- More text after the document. -/
  | extraData
  | byteOrderMark
  /-- An integer too long to be read. -/
  | hugeInteger
deriving Repr, DecidableEq

def Problem.wording : Problem → String
  | expectingValue => "Expecting value"
  | expectingName => "Expecting property name enclosed in double quotes"
  | expectingColon => "Expecting ':' delimiter"
  | expectingComma => "Expecting ',' delimiter"
  | unterminatedString => "Unterminated string starting at"
  | controlCharacter => "Invalid control character at"
  | unknownEscape => "Invalid \\escape"
  | malformedCodeEscape => "Invalid \\uXXXX escape"
  | extraData => "Extra data"
  | byteOrderMark => "Unexpected UTF-8 BOM (decode using utf-8-sig)"
  | hugeInteger => "Integer too long"

structure Error where
  problem : Problem
  index : Nat
deriving Repr, DecidableEq

def Error.message (e : Error) (text : String) : String :=
  let cs := text.toList
  e.problem.wording ++ ": line " ++ toString (Text.lineOf cs e.index) ++ " column " ++
    toString (Text.columnOf cs e.index) ++ " (char " ++ toString e.index ++ ")"

end RemoteBindings.Json
