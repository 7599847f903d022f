import RemoteBindings.Model.Basic
import RemoteBindings.Model.Registry

/-!
# The relation graph

The nodes of the graph are the models; an edge goes to each other model that a relation names, by
its model or by the model that it goes through, and carries the name of the first relation that
makes it. `includeMap` lists the classes of the neighbours, which the headers of a model need.
-/

namespace RemoteBindings

structure RelationEdge where
  source : String
  target : String
  relation : String
deriving Repr, DecidableEq

structure RelationGraph where
  nodes : List String
  /-- The edges, those of one source together, in the order in which relations make them. -/
  edges : List RelationEdge
deriving Repr, DecidableEq

/-- The model names that a relation states. -/
def Relation.stated (r : Relation) : List String := r.model.toList ++ r.through.toList

/-- The models that a relation leads to from a model, resolved; other classes have no bindings of
their own. -/
def Relation.targets (r : Registry) (models : Models) (source : String) (relation : Relation) :
    List String :=
  (relation.stated.filterMap r.resolve?).filter fun target =>
    target != source && Entries.hasKey target models

/-- The edges from a model, without their source: target and relation name, each target once. -/
def neighbours (r : Registry) (models : Models) (source : String) (model : Model) :
    Entries String String :=
  (model.relations.values.flatMap fun relation =>
    (relation.targets r models source).map fun target => (target, relation.name)).foldl
      (fun acc e => if Entries.hasKey e.1 acc then acc else acc ++ [e]) []

def relationGraph (r : Registry) (models : Models) : RelationGraph :=
  { nodes := models.keys
    edges := models.flatMap fun (source, model) =>
      (neighbours r models source model).map fun e => ⟨source, e.1, e.2⟩ }

def RelationGraph.successors (g : RelationGraph) (node : String) : List String :=
  (g.edges.filter fun e => e.source == node).map RelationEdge.target

/-- The classes of the models that each model relates to. -/
def includeMap (r : Registry) (models : Models) : Entries String (List String) :=
  let graph := relationGraph r models
  models.keys.map fun node => (node, (graph.successors node).filterMap r.classOf?)

/-- The models with their related classes filled in. -/
def withIncludes (r : Registry) (models : Models) : Models :=
  let related := includeMap r models
  models.map fun (key, model) =>
    (key, { model with includes := (Entries.find? key related).getD [] })

end RemoteBindings
