import RemoteBindings.Text.Quoted
import RemoteBindings.Text.Utf8
import RemoteBindings.Yaml.Problem

/-!
# Reports on YAML text

`Problem.report` says what is wrong with a text, what was being read when that showed, and shows
both places in the text. Problems with the value of a scalar have no report: they stop the program.
-/

namespace RemoteBindings.Yaml

def Stage.name : Stage → String
  | scanning => "scanning"
  | parsing => "parsing"
  | constructing => "constructing"

def Subject.name : Subject → String
  | simpleKey => "a simple key"
  | directive => "a directive"
  | .alias => "an alias"
  | anchor => "an anchor"
  | tag => "a tag"
  | blockScalar => "a block scalar"
  | quotedScalar => "a quoted scalar"
  | doubleQuotedScalar => "a double-quoted scalar"
  | node => "a node"
  | blockNode => "a block node"
  | flowNode => "a flow node"
  | blockCollection => "a block collection"
  | blockMapping => "a block mapping"
  | flowSequence => "a flow sequence"
  | flowMapping => "a flow mapping"
  | mapping => "a mapping"
  | orderedMap => "an ordered map"
  | pairs => "pairs"

def Context.text : Context → Option String
  | none => Option.none
  | nextToken => some "while scanning for the next token"
  | reading stage subject _ => some ("while " ++ stage.name ++ " " ++ subject.name)
  | behindDocument _ => some "expected a single document in the stream"
  | repeating anchor _ =>
    some ("found duplicate anchor " ++ Text.quoted anchor ++ "; first occurrence")

def Context.start? : Context → Option Mark
  | none | nextToken => Option.none
  | reading _ _ start | behindDocument start | repeating _ start => some start

def NodeKind.name : NodeKind → String
  | scalar => "scalar"
  | sequence => "sequence"
  | mapping => "mapping"

def quotedChar (c : Char) : String := Text.quoted (String.singleton c)

def Expected.text : Expected → String
  | nameCharacter => "alphabetic or numeric character"
  | digit => "a digit"
  | digitOr c => "a digit or " ++ quotedChar c
  | character c => quotedChar c
  | uri => "URI"
  | byteDigits => "URI escape sequence of 2 hexadecimal numbers"
  | codeDigits width => "escape sequence of " ++ toString width ++ " hexadecimal numbers"
  | increment => "indentation indicator in the range 1-9"
  | indicators => "chomping or indentation indicators"
  | lineEnd => "a comment or a line break"
  | documentStart => Text.quoted "<document start>"
  | content => "the node content"
  | blockEnd => "<block end>"
  | commaOr c => "',' or " ++ quotedChar c
  | nodeOf kind => "a " ++ kind.name ++ " node"
  | sequence => "a sequence"
  | pair => "a mapping of length 1"
  | pairEntry => "a single mapping item"
  | merged => "a mapping or list of mappings for merging"
  | mergedItem => "a mapping for merging"

def Expected.verb : Expected → String
  | commaOr _ => "got"
  | _ => "found"

def Found.text : Found → String
  | character c => quotedChar c
  | zero => "0"
  | token (some t) => Text.quoted t.name
  | token none => Text.quoted "<stream end>"
  | node kind => kind.name
  | entries count => toString count ++ " items"

/-- The part of a list, named for its elements, that a codec cannot take. -/
def codecText (codec elements : String) (index count : Nat) (reason : String) : String :=
  "'" ++ codec ++ "' codec can't " ++ elements ++ " in position " ++ toString index ++
    (if count = 1 then "" else "-" ++ toString (index + count - 1)) ++ ": " ++ reason

def utf8Reason : Text.Utf8Reason → String
  | .start => "invalid start byte"
  | .continuation => "invalid continuation byte"
  | .ending => "unexpected end of data"

def utf8Text (bytes : List UInt8) : String :=
  match Text.utf8Fault? bytes with
  | none => ""
  | some f =>
    let elements :=
      if f.count = 1 then "decode byte 0x" ++ String.ofList (Text.hexDigits 2 f.first.toNat)
      else "decode bytes"
    codecText "utf-8" elements f.index f.count (utf8Reason f.reason)

def isAscii (c : Char) : Bool := c.toNat < 0x80

/-- A text is not ASCII from its first character beyond on, and as far as such characters go. -/
def asciiText (text : String) : String :=
  let cs := text.toList
  let beyond := (cs.dropWhile isAscii).takeWhile fun c => !isAscii c
  let elements := match beyond with
    | [c] => "encode character '" ++ String.ofList (Text.escapeCode c) ++ "'"
    | _ => "encode characters"
  codecText "ascii" elements (cs.takeWhile isAscii).length beyond.length
    "ordinal not in range(128)"

def BinaryFault.text : BinaryFault → String
  | notAscii text => "failed to convert base64 data into ascii: " ++ asciiText text
  | lostDigit groups =>
    "failed to decode base64 data: Invalid base64-encoded string: number of data characters (" ++
      toString (4 * groups + 1) ++ ") cannot be 1 more than a multiple of 4"
  | padding => "failed to decode base64 data: Incorrect padding"

/-- The things that may be misplaced, by the token that begins them. -/
def startedBy : Token → String
  | .blockItem => "sequence entries"
  | .key => "mapping keys"
  | _ => "mapping values"

def Cause.text : Cause → String
  | expected what found => "expected " ++ what.text ++ ", but " ++ what.verb ++ " " ++ found.text
  | noToken c => "found character " ++ quotedChar c ++ " that cannot start any token"
  | noColon => "could not find expected ':'"
  | misplaced t => startedBy t ++ " are not allowed here"
  | unknownEscape c => "found unknown escape character " ++ quotedChar c
  | endOfText => "found unexpected end of stream"
  | documentMark => "found unexpected document separator"
  | noText bytes => utf8Text bytes
  | repeatedVersion => "found duplicate YAML directive"
  | foreignVersion => "found incompatible YAML document (version 1.* is required)"
  | repeatedHandle handle => "duplicate tag handle " ++ Text.quoted handle
  | unknownHandle handle => "found undefined tag handle " ++ Text.quoted handle
  | unknownAlias name => "found undefined alias " ++ Text.quoted name
  | repeatedAnchor => "second occurrence"
  | secondDocument => "but found another document"
  | collectionKey => "found unhashable key"
  | unknownTag name => "could not determine a constructor for the tag " ++ Text.quoted name
  | noBinary f => f.text

/-- Both places are shown, unless they are one. -/
def Defect.report (d : Defect) (cs : List Char) : List String :=
  let start := match d.context.start? with
    | none => []
    | some m =>
      if m.line = d.place.line ∧ m.column = d.place.column then [] else m.shown cs
  d.context.text.toList ++ start ++ [d.cause.text] ++ d.place.shown cs

def forbiddenReport (c : Char) (index : Nat) : List String :=
  let digits := Nat.toDigits 16 c.toNat
  let padded := List.replicate (4 - digits.length) '0' ++ digits
  ["unacceptable character #x" ++ String.ofList padded ++ ": special characters are not allowed",
    "  in \"<unicode string>\", position " ++ toString index]

/-- The lines of a report on the problem with a text. -/
def Problem.report (text : String) : Problem → List String
  | defect d => d.report text.toList
  | forbidden c index => forbiddenReport c index
  | _ => []

/-- Whether a problem is one of the text as YAML; the others stop the program. -/
def Problem.isReported : Problem → Bool
  | defect _ | forbidden _ _ => true
  | _ => false

end RemoteBindings.Yaml
