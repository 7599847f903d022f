/-!
# Tokens of YAML text

The indentation of block collections shows as tokens of its own: a start where a deeper block begins
and `blockEnd` where it ends.
-/

namespace RemoteBindings.Yaml

/-- A tag as it is written: a suffix behind a handle, or all of it. -/
structure TagName where
  handle : Option String
  suffix : String
deriving Repr, DecidableEq

inductive Directive where
  | version (major minor : Nat)
  | tag (handle start : String)
  /-- A directive of another name, which is ignored. -/
  | other
deriving Repr, DecidableEq

inductive Token where
  | directive (d : Directive)
  | documentStart
  | documentEnd
  | blockSequenceStart
  | blockMappingStart
  | blockEnd
  | flowSequenceStart
  | flowSequenceEnd
  | flowMappingStart
  | flowMappingEnd
  | blockItem
  | flowComma
  | key
  | value
  | alias (name : String)
  | anchor (name : String)
  | tag (t : TagName)
  | scalar (text : String) (isPlain : Bool)
deriving Repr, DecidableEq

/-- The name of a token in reports: its indicator, if it always has the same one. -/
def Token.name : Token → String
  | directive _ => "<directive>"
  | documentStart => "<document start>"
  | documentEnd => "<document end>"
  | blockSequenceStart => "<block sequence start>"
  | blockMappingStart => "<block mapping start>"
  | blockEnd => "<block end>"
  | flowSequenceStart => "["
  | flowSequenceEnd => "]"
  | flowMappingStart => "\x7b"
  | flowMappingEnd => "\x7d"
  | blockItem => "-"
  | flowComma => ","
  | key => "?"
  | value => ":"
  | .alias _ => "<alias>"
  | anchor _ => "<anchor>"
  | tag _ => "<tag>"
  | scalar _ _ => "<scalar>"

end RemoteBindings.Yaml
