import RemoteBindings.Yaml.Problem
import RemoteBindings.Yaml.Tag

/-!
# The nodes of a document

The nodes of a document are numbered and a collection names its parts by number. An alias names the
node with its anchor, so nodes are shared and a collection may hold itself.
-/

namespace RemoteBindings.Yaml

abbrev NodeId := Nat

/-- The key and the value of an entry. -/
abbrev Pair := NodeId × NodeId

inductive Content where
  | scalar (text : String)
  | sequence (items : List NodeId)
  | mapping (entries : List Pair)
deriving Repr, DecidableEq

def Content.kind : Content → NodeKind
  | scalar _ => .scalar
  | sequence _ => .sequence
  | mapping _ => .mapping

/-- A node begins with what is stated before its content. -/
structure Node where
  tag : Tag
  content : Content
  start : Mark
deriving Repr, DecidableEq

namespace Node

/-- The node where one is left out. -/
def empty (start : Mark) : Node := ⟨.null, .scalar "", start⟩

instance : Inhabited Node := ⟨empty default⟩

def kind (n : Node) : NodeKind := n.content.kind

def entries (n : Node) : List Pair :=
  match n.content with
  | .mapping es => es
  | _ => []

end Node

/-- The nodes of a document by their numbers. -/
structure Graph where
  nodes : Array Node := #[]

namespace Graph

def node (g : Graph) (id : NodeId) : Node := g.nodes.getD id default

def tag (g : Graph) (id : NodeId) : Tag := (g.node id).tag

/-- A new node and the graph with it. -/
def add (g : Graph) (n : Node) : NodeId × Graph := (g.nodes.size, ⟨g.nodes.push n⟩)

def put (g : Graph) (id : NodeId) (n : Node) : Graph := ⟨g.nodes.setIfInBounds id n⟩

def setEntries (g : Graph) (id : NodeId) (es : List Pair) : Graph :=
  g.put id { g.node id with content := .mapping es }

/-- The number of entries in all mappings. -/
def entryCount (g : Graph) : Nat := g.nodes.foldl (fun n node => n + node.entries.length) 0

/-- Another kind of node belongs in a place than the one that is there. -/
def expects {α : Type} (g : Graph) (context : Context) (what : Expected) (id : NodeId) : Result α :=
  refuse context (.expected what (.node (g.node id).kind)) (g.node id).start

/-- The text of a node: its own, or that of the first value in it under the mark of the default
value. Each step goes to another node, so the number of nodes bounds the steps. -/
def textOf (g : Graph) : Nat → NodeId → Result String
  | 0, _ => .error .endlessDefault
  | fuel + 1, id =>
    match (g.node id).content with
    | .scalar text => .ok text
    | .sequence _ => g.expects .none (.nodeOf .scalar) id
    | .mapping es =>
      match es.find? fun e => g.tag e.1 == .value with
      | some e => g.textOf fuel e.2
      | none => g.expects .none (.nodeOf .scalar) id

def text (g : Graph) (id : NodeId) : Result String := g.textOf (g.nodes.size + 1) id

end Graph

end RemoteBindings.Yaml
