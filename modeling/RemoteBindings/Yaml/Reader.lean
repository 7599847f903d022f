import RemoteBindings.Value.Cycle
import RemoteBindings.Yaml.Collection
import RemoteBindings.Yaml.Document
import RemoteBindings.Yaml.Lexer

/-!
# Reading YAML

`read?` reads the single document of a text into a `Value`. Only in a document with a collection
inside itself the collections have labels.
-/

namespace RemoteBindings.Yaml

variable [Text.LoneSurrogate]

/-- The values of all nodes that are reached from the root, and that of the root. -/
def Document.fill (d : Document) : Result (Part × Filling) :=
  let all : Filling.Step Part := do
    let root ← Filling.visit d.root
    Filling.fillAll (d.graph.nodes.size + 1)
    return root
  all.run (Filling.ofGraph d.graph)

def Document.value? (d : Document) : Result Value := do
  let (root, f) ← d.fill
  let value (labelled : Bool) := f.value labelled (d.graph.nodes.size + 1) [] root
  let plain := value false
  return if plain.holdsAgain then value true else plain

/-- The document of a text; none for an empty text. -/
def document? (text : String) : Result (Option Document) := Document.ofLexemes? (.ofText text)

/-- The value of the document; nothing for an empty text. -/
def read? (text : String) : Result Value :=
  match document? text with
  | .error e => .error e
  | .ok none => .ok .null
  | .ok (some d) => d.value?

end RemoteBindings.Yaml
