import RemoteBindings.Yaml.Node

/-!
# Merged entries

A mapping takes over the entries of the mappings under its merge marks: they come before its own, so
that its own ones win, and of several mappings in one list the first wins. `Graph.flatten` does this
in the graph, for the mapping and all those merged into it.
-/

namespace RemoteBindings.Yaml.Graph

/-- The value of the first entry under a merge mark, and the other entries. -/
def takeMerge? (g : Graph) : List Pair → Option (NodeId × List Pair)
  | [] => none
  | e :: es =>
    if g.tag e.1 == .merge then some (e.2, es)
    else (takeMerge? g es).map fun (source, rest) => (source, e :: rest)

/-- Makes a key that marks the default value a text as any other. -/
def plainKey (g : Graph) (e : Pair) : Graph :=
  if g.tag e.1 == .value then g.put e.1 { g.node e.1 with tag := .str } else g

/-- Merges what a mapping names, behind the entries that have been merged before. Every call but
the first takes a merge mark out of the graph, so their number bounds the depth. -/
def flattenFrom : Nat → List Pair → NodeId → Graph → Result Graph
  | 0, _, _, _ => .error .outOfFuel
  | fuel + 1, merged, id, g =>
    let own := (g.node id).entries
    match g.takeMerge? own with
    | none => .ok ((own.foldl plainKey g).setEntries id (merged ++ own))
    | some (source, rest) =>
      let g := g.setEntries id rest
      let context := Context.reading .constructing .mapping (g.node id).start
      match (g.node source).content with
      | .scalar _ => g.expects context .merged source
      | .mapping _ => do
        let g ← flattenFrom fuel [] source g
        flattenFrom fuel (merged ++ (g.node source).entries) id g
      | .sequence items => do
        let (parts, g) ← items.foldlM (fun (parts, g) item =>
          match (g.node item).content with
          | .mapping _ => do
            let g ← flattenFrom fuel [] item g
            return ((g.node item).entries ++ parts, g)
          | _ => g.expects context .mergedItem item) ([], g)
        flattenFrom fuel (merged ++ parts) id g

def flatten (g : Graph) (id : NodeId) : Result Graph := flattenFrom (g.entryCount + 1) [] id g

end RemoteBindings.Yaml.Graph
