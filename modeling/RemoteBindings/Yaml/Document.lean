import RemoteBindings.Entries
import RemoteBindings.Yaml.Lexeme
import RemoteBindings.Yaml.Node

/-!
# The document of a stream of tokens

`Document.ofLexemes?` reads the single document of a stream of tokens into a graph of nodes. An
alias is the node with its anchor, which may be the very node that the alias is in; anchors are used
once. Tokens are looked at one by one, so of a token out of place and a text that cannot be read the
first counts.
-/

namespace RemoteBindings.Yaml

/-- The handles that tags may use, with what they stand for. -/
abbrev Handles := Entries String String

/-- The tokens that are left, and the nodes and anchors so far. -/
structure Feed extends Lexemes where
  graph : Graph := {}
  anchors : Entries String NodeId := []

namespace Feed

def drop (f : Feed) : Feed := { f with toLexemes := f.toLexemes.drop }

def add (f : Feed) (n : Node) : NodeId × Feed :=
  let (id, graph) := f.graph.add n
  (id, { f with graph })

def addEmpty (f : Feed) (start : Mark) : NodeId × Feed := f.add (.empty start)

def define (f : Feed) (id : NodeId) (n : Node) : Feed := { f with graph := f.graph.put id n }

/-- Begins a node, whose anchor must be new. -/
def openNode (f : Feed) (anchor : Option String) (start : Mark) : Result (NodeId × Feed) :=
  let (id, next) := f.addEmpty start
  match anchor with
  | none => .ok (id, next)
  | some name => match Entries.find? name f.anchors with
    | some first => refuse (.repeating name (f.graph.node first).start) .repeatedAnchor start
    | none => .ok (id, { next with anchors := Entries.put name id f.anchors })

end Feed

/-- What stands before the content of a node: an anchor, and a tag with its place. -/
structure Properties where
  anchor : Option String := none
  tag : Option (TagName × Mark) := none

/-- An anchor and a tag, in either order. Behind only one of them the next token is looked at before
either counts. -/
def takeProperties (f : Feed) : Result (Properties × Feed) :=
  match f.lexemes with
  | ⟨.anchor a, _, _⟩ :: ⟨.tag t, place, _⟩ :: _ => .ok (⟨some a, some (t, place)⟩, f.drop.drop)
  | ⟨.tag t, place, _⟩ :: ⟨.anchor a, _, _⟩ :: _ => .ok (⟨some a, some (t, place)⟩, f.drop.drop)
  | ⟨.anchor a, _, _⟩ :: _ => f.drop.demand.map fun _ => (⟨some a, none⟩, f.drop)
  | ⟨.tag t, place, _⟩ :: _ => f.drop.demand.map fun _ => (⟨none, some (t, place)⟩, f.drop)
  | _ => .ok ({}, f)

/-- The full name of a tag, if one is stated for the node that begins at `start`. -/
def Properties.tagName? (handles : Handles) (start : Mark) (p : Properties) :
    Result (Option String) :=
  match p.tag with
  | none => .ok none
  | some (t, place) => match t.handle with
    | none => .ok (some t.suffix)
    | some h => match Entries.find? h handles with
      | some first => .ok (some (first ++ t.suffix))
      | none => refuse (.reading .parsing .node start) (.unknownHandle h) place

/-- The tag of a collection; an exclamation mark states none. -/
def collectionTag (default : Tag) : Option String → Tag
  | none | some "!" => default
  | some name => Tag.ofName name

/-- The tag of a scalar: its form counts if it is plain, or under the mark `!`. -/
def scalarTag (name : Option String) (text : String) (isPlain : Bool) : Tag :=
  match name with
  | none => if isPlain then Tag.ofPlain text else .str
  | some "!" => Tag.ofPlain text
  | some name => Tag.ofName name

def endsBlockItem : Token → Bool
  | .blockItem | .blockEnd => true
  | _ => false

def endsBlockEntry : Token → Bool
  | .key | .value | .blockEnd => true
  | _ => false

def endsBareItem (t : Token) : Bool := endsBlockItem t || endsBlockEntry t

def endsFlowItem : Token → Bool
  | .flowComma | .flowSequenceEnd => true
  | _ => false

def endsFlowEntry : Token → Bool
  | .flowComma | .flowMappingEnd => true
  | _ => false

def isValue : Token → Bool
  | .value => true
  | _ => false

/-- Where a node stands: which collections may begin there. -/
inductive Place where
  | flow
  | block
  /-- The value or the key of a block mapping, where items need no indentation. -/
  | blockEntry
deriving Repr, DecidableEq

/-- What stands before the content of a node and where the node begins. -/
structure Head where
  properties : Properties
  /-- The full name of the stated tag. -/
  name : Option String
  start : Mark

/-- A node without content needs an anchor or a tag. -/
def parseNothing (place : Place) (h : Head) (f : Feed) : Result (Node × Feed) :=
  if h.properties.anchor.isSome || h.properties.tag.isSome then
    .ok (⟨scalarTag h.name "" true, .scalar "", h.start⟩, f)
  else
    let subject := if place = .flow then Subject.flowNode else .blockNode
    f.expects (.reading .parsing subject h.start) .content

def sequenceNode (h : Head) (read : List NodeId × Feed) : Node × Feed :=
  (⟨collectionTag .seq h.name, .sequence read.1, h.start⟩, read.2)

def mappingNode (h : Head) (read : List Pair × Feed) : Node × Feed :=
  (⟨collectionTag .map h.name, .mapping read.1, h.start⟩, read.2)

mutual

/-- Reads a node. Each call takes one unit of fuel, and every second call passes a token. -/
def parseNode (handles : Handles) (place : Place) : Nat → Feed → Result (NodeId × Feed)
  | 0, _ => .error .outOfFuel
  | fuel + 1, f =>
    match f.lexemes with
    | ⟨.alias name, start, _⟩ :: _ =>
      match Entries.find? name f.anchors with
      | some id => .ok (id, f.drop)
      | none => refuse .none (.unknownAlias name) start
    | _ => do
      let (_, start) ← f.next
      let (properties, f) ← takeProperties f
      let name ← properties.tagName? handles start
      f.demand
      let (id, f) ← f.openNode properties.anchor start
      let (n, f) ← parseContent handles place ⟨properties, name, start⟩ fuel f
      return (id, f.define id n)

/-- Reads the content of a node behind its head. -/
def parseContent (handles : Handles) (place : Place) (h : Head) :
    Nat → Feed → Result (Node × Feed)
  | 0, _ => .error .outOfFuel
  | fuel + 1, f =>
    match f.lexemes with
    | ⟨.scalar text isPlain, _, _⟩ :: _ =>
      .ok (⟨scalarTag h.name text isPlain, .scalar text, h.start⟩, f.drop)
    | ⟨.flowSequenceStart, start, _⟩ :: _ =>
      (parseFlowSequence handles start true fuel f.drop).map (sequenceNode h)
    | ⟨.flowMappingStart, start, _⟩ :: _ =>
      (parseFlowMapping handles start true fuel f.drop).map (mappingNode h)
    | ⟨.blockItem, _, _⟩ :: _ =>
      if place = .blockEntry then (parseBareSequence handles fuel f).map (sequenceNode h)
      else parseNothing place h f
    | ⟨.blockSequenceStart, start, _⟩ :: _ =>
      if place = .flow then parseNothing place h f
      else (parseBlockSequence handles start fuel f.drop).map (sequenceNode h)
    | ⟨.blockMappingStart, start, _⟩ :: _ =>
      if place = .flow then parseNothing place h f
      else (parseBlockMapping handles start fuel f.drop).map (mappingNode h)
    | _ => parseNothing place h f

/-- Reads a node behind a token that ends at `behind`, unless the next token ends the item. -/
def parseUnless (handles : Handles) (place : Place) (behind : Mark) (p : Token → Bool) :
    Nat → Feed → Result (NodeId × Feed)
  | 0, _ => .error .outOfFuel
  | fuel + 1, f =>
    if f.nextIs p then .ok (f.addEmpty behind) else parseNode handles place fuel f

/-- Reads the items of a sequence that begins at `start`. -/
def parseBlockSequence (handles : Handles) (start : Mark) :
    Nat → Feed → Result (List NodeId × Feed)
  | 0, _ => .error .outOfFuel
  | fuel + 1, f =>
    match f.lexemes with
    | ⟨.blockItem, _, behind⟩ :: _ => do
      let (n, f) ← parseUnless handles .block behind endsBlockItem fuel f.drop
      let (items, f) ← parseBlockSequence handles start fuel f
      return (n :: items, f)
    | ⟨.blockEnd, _, _⟩ :: _ => .ok ([], f.drop)
    | _ => f.expects (.reading .parsing .blockCollection start) .blockEnd

/-- Reads the items of a sequence that is not indented. -/
def parseBareSequence (handles : Handles) : Nat → Feed → Result (List NodeId × Feed)
  | 0, _ => .error .outOfFuel
  | fuel + 1, f =>
    match f.lexemes with
    | ⟨.blockItem, _, behind⟩ :: _ => do
      let (n, f) ← parseUnless handles .block behind endsBareItem fuel f.drop
      let (items, f) ← parseBareSequence handles fuel f
      return (n :: items, f)
    | _ => .ok ([], f)

/-- Reads the value of an entry, if there is one. -/
def parseValue (handles : Handles) (place : Place) (p : Token → Bool) :
    Nat → Feed → Result (NodeId × Feed)
  | 0, _ => .error .outOfFuel
  | fuel + 1, f =>
    match f.lexemes with
    | ⟨.value, _, behind⟩ :: _ => parseUnless handles place behind p fuel f.drop
    | _ => f.next.map fun (_, start) => f.addEmpty start

def parseBlockMapping (handles : Handles) (start : Mark) : Nat → Feed → Result (List Pair × Feed)
  | 0, _ => .error .outOfFuel
  | fuel + 1, f =>
    match f.lexemes with
    | ⟨.key, _, behind⟩ :: _ => do
      let (k, f) ← parseUnless handles .blockEntry behind endsBlockEntry fuel f.drop
      let (v, f) ← parseValue handles .blockEntry endsBlockEntry fuel f
      let (es, f) ← parseBlockMapping handles start fuel f
      return ((k, v) :: es, f)
    | ⟨.blockEnd, _, _⟩ :: _ => .ok ([], f.drop)
    | _ => f.expects (.reading .parsing .blockMapping start) .blockEnd

/-- Reads the items of a flow sequence; behind the first one a comma comes before each. -/
def parseFlowSequence (handles : Handles) (start : Mark) (isFirst : Bool) :
    Nat → Feed → Result (List NodeId × Feed)
  | 0, _ => .error .outOfFuel
  | fuel + 1, f =>
    if f.nextIs (· == .flowSequenceEnd) then .ok ([], f.drop)
    else if isFirst then parseFlowItem handles start fuel f
    else if f.nextIs (· == .flowComma) then parseFlowItem handles start fuel f.drop
    else f.expects (.reading .parsing .flowSequence start) (.commaOr ']')

/-- Reads an item of a flow sequence, which may be a mapping of one entry, or the end. -/
def parseFlowItem (handles : Handles) (start : Mark) : Nat → Feed → Result (List NodeId × Feed)
  | 0, _ => .error .outOfFuel
  | fuel + 1, f =>
    match f.lexemes with
    | ⟨.flowSequenceEnd, _, _⟩ :: _ => .ok ([], f.drop)
    | ⟨.key, place, behind⟩ :: _ => do
      let endsKey (t : Token) : Bool := isValue t || endsFlowItem t
      let (k, f) ← parseUnless handles .flow behind endsKey fuel f.drop
      let (v, f) ← parseValue handles .flow endsFlowItem fuel f
      let (n, f) := f.add ⟨.map, .mapping [(k, v)], place⟩
      let (items, f) ← parseFlowSequence handles start false fuel f
      return (n :: items, f)
    | _ => do
      let (n, f) ← parseNode handles .flow fuel f
      let (items, f) ← parseFlowSequence handles start false fuel f
      return (n :: items, f)

/-- Reads the entries of a flow mapping; behind the first one a comma comes before each. -/
def parseFlowMapping (handles : Handles) (start : Mark) (isFirst : Bool) :
    Nat → Feed → Result (List Pair × Feed)
  | 0, _ => .error .outOfFuel
  | fuel + 1, f =>
    if f.nextIs (· == .flowMappingEnd) then .ok ([], f.drop)
    else if isFirst then parseFlowPair handles start fuel f
    else if f.nextIs (· == .flowComma) then parseFlowPair handles start fuel f.drop
    else f.expects (.reading .parsing .flowMapping start) (.commaOr '\x7d')

/-- Reads an entry of a flow mapping, which may be a key alone, or the end. -/
def parseFlowPair (handles : Handles) (start : Mark) : Nat → Feed → Result (List Pair × Feed)
  | 0, _ => .error .outOfFuel
  | fuel + 1, f =>
    match f.lexemes with
    | ⟨.flowMappingEnd, _, _⟩ :: _ => .ok ([], f.drop)
    | ⟨.key, _, behind⟩ :: _ => do
      let endsKey (t : Token) : Bool := isValue t || endsFlowEntry t
      let (k, f) ← parseUnless handles .flow behind endsKey fuel f.drop
      let (v, f) ← parseValue handles .flow endsFlowEntry fuel f
      let (es, f) ← parseFlowMapping handles start false fuel f
      return ((k, v) :: es, f)
    | _ => do
      let (k, f) ← parseNode handles .flow fuel f
      let (_, behind) ← f.next
      let (v, f) := f.addEmpty behind
      let (es, f) ← parseFlowMapping handles start false fuel f
      return ((k, v) :: es, f)

end

/-! ## Documents -/

def defaultHandles : Handles := [("!", "!"), ("!!", Tag.standardStart)]

/-- What the directives of a document state. -/
structure Preamble where
  hasVersion : Bool := false
  handles : Handles := []

def Preamble.add (p : Preamble) (place : Mark) : Directive → Result Preamble
  | .version major _ =>
    if p.hasVersion then refuse .none .repeatedVersion place
    else if major != 1 then refuse .none .foreignVersion place
    else .ok { p with hasVersion := true }
  | .tag handle start =>
    if Entries.hasKey handle p.handles then refuse .none (.repeatedHandle handle) place
    else .ok { p with handles := Entries.put handle start p.handles }
  | .other => .ok p

/-- The handles of a document: its own, and the default ones that it does not define. -/
def Preamble.allHandles (p : Preamble) : Handles := p.handles ++ defaultHandles

/-- What the directives in front of some tokens state, and the tokens behind them. -/
def takeDirectives (p : Preamble) : List Lexeme → Result (Preamble × List Lexeme)
  | ⟨.directive d, place, _⟩ :: ls => match p.add place d with
    | .error e => .error e
    | .ok p => takeDirectives p ls
  | ls => .ok (p, ls)

/-- Reads the directives of a document and the token that starts it. -/
def Feed.openDocument (f : Feed) : Result (Preamble × Feed) := do
  let (p, lexemes) ← takeDirectives {} f.lexemes
  let f := { f with lexemes }
  if f.nextIs (· == .documentStart) then return (p, f.drop) else f.expects .none .documentStart

def isDocumentMark : Token → Bool
  | .directive _ | .documentStart | .documentEnd => true
  | _ => false

def Feed.fuel (f : Feed) : Nat := 4 * f.lexemes.length + 4

/-- Reads the content behind the start of a document, which may be empty. -/
def parseDocument (handles : Handles) (f : Feed) : Result (NodeId × Feed) := do
  let (t, place) ← f.next
  if t.elim true isDocumentMark then return f.addEmpty place
  else parseNode handles .block f.fuel f

/-- Reads a document; no node for an empty stream. -/
def parseStream (f : Feed) : Result (Option NodeId × Feed) := do
  match ← f.next with
  | (none, _) => return (none, f)
  | (some (.directive _), _) | (some .documentStart, _) =>
    let (p, f) ← f.openDocument
    (parseDocument p.allHandles f).map fun (id, f) => (some id, f)
  | _ => (parseNode defaultHandles .block f.fuel f).map fun (id, f) => (some id, f)

/-- Nothing but the ends of documents may be left behind the document that begins at `start`; the
head of a second document is read before that counts. -/
def requireEnd (start : Mark) (f : Feed) : Result Unit := do
  let f := { f with lexemes := f.lexemes.dropWhile fun l => l.token == Token.documentEnd }
  match ← f.next with
  | (none, _) => return
  | (some _, place) =>
    let _ ← f.openDocument
    refuse (.behindDocument start) .secondDocument place

/-- A graph of nodes, and the one that is the content of the document. -/
structure Document where
  graph : Graph
  root : NodeId

/-- The single document of a stream of tokens; none for an empty stream. -/
def Document.ofLexemes? (ls : Lexemes) : Result (Option Document) := do
  let (root, f) ← parseStream { toLexemes := ls }
  match root with
  | none => return none
  | some root =>
    requireEnd (f.graph.node root).start f
    return some ⟨f.graph, root⟩

end RemoteBindings.Yaml
