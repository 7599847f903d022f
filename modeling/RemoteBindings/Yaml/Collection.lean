import RemoteBindings.Value.Equal
import RemoteBindings.Yaml.Merge
import RemoteBindings.Yaml.Scalar

/-!
# Collections of a document

The nodes of a document get their values in the order in which they are found from the root on: a
scalar at once, a collection (`Collection`) when its turn comes (`Filling.fillAll`). So of several
problems the one nearest to the root counts. A node that is met again is the value that it was
before.
-/

namespace RemoteBindings.Yaml

/-- A part of a collection: a value, or the collection of a node. -/
inductive Part where
  | leaf (v : Value)
  | collection (id : NodeId)

inductive Collection where
  | list (items : List Part)
  /-- A list of pairs. -/
  | pairs (items : List (Part × Part))
  | set (items : List Value)
  | map (entries : List (Value × Part))

def Collection.isMapping : Collection → Bool
  | .map _ => true
  | _ => false

/-- Values of nodes so far, by the numbers of the nodes. -/
structure Filling where
  graph : Graph
  parts : Array (Option Part)
  collections : Array (Option Collection)
  /-- The collections to be filled next, last first. -/
  found : List NodeId := []

namespace Filling

def ofGraph (graph : Graph) : Filling :=
  { graph
    parts := Array.replicate graph.nodes.size none
    collections := Array.replicate graph.nodes.size none }

abbrev Step (α : Type) := StateT Filling (Except Problem) α

def isCollection : Tag → Bool
  | .seq | .map | .set | .omap | .pairs => true
  | _ => false

/-- The value of a node that is no collection. -/
def scalarOf (g : Graph) (id : NodeId) : Result Value := do
  let node := g.node id
  match node.tag with
  | .merge | .value | .unknown _ => refuse .none (.unknownTag node.tag.name) node.start
  | tag =>
    let text ← g.text id
    match tag, node.content with
    | .timestamp, .mapping _ => throw .nestedMoment
    | _, _ => scalarValue (id + 1) node.start tag text

/-- The value of a node as a part of a collection. -/
def visit (id : NodeId) : Step Part := do
  let f ← get
  match f.parts.getD id none with
  | some p => return p
  | none =>
    if isCollection (f.graph.tag id) then
      set { f with
        parts := f.parts.setIfInBounds id (some (.collection id)), found := id :: f.found }
      return .collection id
    else
      let v ← (scalarOf f.graph id : Except Problem Value)
      set { f with parts := f.parts.setIfInBounds id (some (.leaf v)) }
      return .leaf v

/-- An entry of the mapping at `start`; no key is a collection. -/
def visitEntry (start : Mark) (e : Pair) : Step (Value × Part) := do
  match ← visit e.1 with
  | .leaf key => return (key, ← visit e.2)
  | .collection id =>
    let key := (← get).graph.node id
    (refuse (.reading .constructing .mapping start) .collectionKey key.start : Except Problem _)

def visitEntries (id : NodeId) : Step (Entries Value Part) := do
  let f ← get
  let graph ← (f.graph.flatten id : Except Problem Graph)
  set { f with graph }
  let node := graph.node id
  return Entries.ofList (← node.entries.mapM (visitEntry node.start))

/-- An item of a list of pairs is a mapping with one entry. -/
def visitPair (context : Context) (id : NodeId) : Step (Part × Part) := do
  let g := (← get).graph
  let node := g.node id
  match node.content with
  | .mapping [(k, v)] => return (← visit k, ← visit v)
  | .mapping es =>
    let found := Found.entries es.length
    (refuse context (.expected .pairEntry found) node.start : Except Problem _)
  | _ => (g.expects context .pair id : Except Problem _)

def visitPairs (subject : Subject) (id : NodeId) : Step Collection := do
  let g := (← get).graph
  let context := Context.reading .constructing subject (g.node id).start
  match (g.node id).content with
  | .sequence items => Collection.pairs <$> items.mapM (visitPair context)
  | _ => (g.expects context .sequence id : Except Problem _)

/-- Gives a collection its parts. -/
def fill (id : NodeId) : Step Unit := do
  let g := (← get).graph
  let node := g.node id
  let collection ← match node.tag, node.content with
    | .omap, _ => visitPairs .orderedMap id
    | .pairs, _ => visitPairs .pairs id
    | .map, .mapping _ => Collection.map <$> visitEntries id
    | .set, .mapping _ => (fun es => Collection.set es.keys) <$> visitEntries id
    | .map, _ | .set, _ => (g.expects .none (.nodeOf .mapping) id : Except Problem _)
    | _, .sequence items => Collection.list <$> items.mapM visit
    | _, _ => (g.expects .none (.nodeOf .sequence) id : Except Problem _)
  modify fun f => { f with collections := f.collections.setIfInBounds id (some collection) }

/-- Fills the collections that have been found, then those that are found in them. Each is found
once, so the number of nodes bounds the rounds. -/
def fillAll : Nat → Step Unit
  | 0 => return
  | fuel + 1 => do
    let f ← get
    if f.found.isEmpty then return
    set { f with found := [] }
    f.found.reverse.forM fill
    fillAll fuel

/-! ## Values -/

/-- The value of a part inside of the collections with the given numbers, with or without labels
at collections. No number is repeated, so the number of nodes bounds the depth. -/
def value (f : Filling) (labelled : Bool) : Nat → List NodeId → Part → Value
  | _, _, .leaf v => v
  | 0, _, .collection _ => .null
  | fuel + 1, around, .collection id =>
    match f.collections.getD id none with
    | none => .null
    | some collection =>
      if around.contains id then .again id collection.isMapping
      else
        let inner := value f labelled fuel (id :: around)
        let content := match collection with
          | .list items => .list (items.map inner)
          | .pairs items => .list (items.map fun e => .tuple [inner e.1, inner e.2])
          | .set items => .set items
          | .map entries => .map (entries.map fun e => (e.1, inner e.2))
        if labelled then .knot id content else content

end Filling

end RemoteBindings.Yaml
