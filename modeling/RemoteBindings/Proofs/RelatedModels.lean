import RemoteBindings.Proofs.Agreement
import RemoteBindings.Proofs.FirstOccurrence

/-!
# Which models a model is related to

`relatedModels` reads the models that a model relates to off its own relations, in the order in
which these state them. The graph of relations agrees with it: `grownGraph` starts with the nodes
alone and gains one edge after the other, for all models in turn, and as the edges of a model begin
there only (`foldl_link_edgesOf`) it comes to the same as `relationGraph` (`grownGraph_eq`). So the
neighbours of a node are the related models (`keys_neighbours`), and an edge has the name of the
first relation that leads to its end (`map_name_firstRelation?`). `includeMap_eq` says what this
makes of the includes.
-/

namespace RemoteBindings

variable {r : Registry} {models : Models} {source target : String} {model : Model}
  {e : String × Model}

/-- The models that a relation leads to, its model before the one that it goes through. -/
def Relation.resolved (r : Registry) (relation : Relation) : List String :=
  relation.stated.filterMap r.resolve?

/-- The models that the relations of a model lead to, the first of equal ones, without the model
itself. -/
def relatedModels (r : Registry) (name : String) (model : Model) : List String :=
  ((model.relations.values.flatMap (Relation.resolved r)).filter (· != name)).eraseDups

/-- The first relation of a model that leads to a target. -/
def firstRelation? (r : Registry) (model : Model) (target : String) : Option Relation :=
  model.relations.values.find? fun relation => (relation.resolved r).contains target

/-! ## Growing a graph -/

def RelationGraph.addNode (g : RelationGraph) (node : String) : RelationGraph :=
  if g.nodes.contains node then g else { g with nodes := g.nodes ++ [node] }

/-- The graph with one more edge, unless there is one between its nodes. -/
def RelationGraph.link (g : RelationGraph) (edge : RelationEdge) : RelationGraph :=
  if g.edges.any fun x => x.source == edge.source && x.target == edge.target then g
  else { g with edges := g.edges ++ [edge] }

/-- The edges that the relations of a model make, one after the other. -/
def edgesOf (r : Registry) (models : Models) (e : String × Model) : List RelationEdge :=
  e.2.relations.values.flatMap fun relation =>
    (relation.targets r models e.1).map fun target => ⟨e.1, target, relation.name⟩

/-- The graph that has all models for nodes, and then gains the edges of one model after the other.
-/
def grownGraph (r : Registry) (models : Models) : RelationGraph :=
  models.foldl (fun g e => (edgesOf r models e).foldl RelationGraph.link g)
    (models.keys.foldl RelationGraph.addNode ⟨[], []⟩)

theorem foldl_addNode (nodes : List String) (edges : List RelationEdge) (hn : nodes.Nodup) :
    nodes.foldl RelationGraph.addNode ⟨[], edges⟩ = ⟨nodes, edges⟩ := by
  induction nodes using List.reverseRecOn with
  | nil => rfl
  | append_singleton nodes node ih =>
    obtain ⟨hn, -, hd⟩ := List.nodup_append.mp hn
    have hnew : node ∉ nodes := fun h => hd node h node List.mem_cons_self rfl
    rw [List.foldl_concat, ih hn, RelationGraph.addNode, if_neg]
    exact mt List.contains_iff_mem.mp hnew

/-- The edges of one model do not meet those of others. -/
theorem foldl_link_of_source (nodes : List String) {others : List RelationEdge}
    (ho : ∀ x ∈ others, x.source ≠ source) (ends acc : Entries String String) :
    (ends.map fun x => (⟨source, x.1, x.2⟩ : RelationEdge)).foldl RelationGraph.link
        ⟨nodes, others ++ acc.map fun x => ⟨source, x.1, x.2⟩⟩ =
      ⟨nodes, others ++
        (ends.foldl (fun acc x => if Entries.hasKey x.1 acc then acc else acc ++ [x]) acc).map
          fun x => ⟨source, x.1, x.2⟩⟩ := by
  induction ends generalizing acc with
  | nil => rfl
  | cons x ends ih =>
    have hany : ((others ++ acc.map fun x => (⟨source, x.1, x.2⟩ : RelationEdge)).any fun y =>
        y.source == source && y.target == x.1) = Entries.hasKey x.1 acc := by
      have hother : (others.any fun y => y.source == source && y.target == x.1) = false :=
        List.any_eq_false.mpr fun y hy => by simp [ho y hy]
      rw [List.any_append, hother, Bool.false_or, List.any_map, Entries.hasKey]
      simp [Function.comp_def]
    rw [List.map_cons, List.foldl_cons, List.foldl_cons, RelationGraph.link, hany]
    split
    · exact ih acc
    · rw [← ih, List.map_append, List.append_assoc]
      rfl

theorem foldl_link_edgesOf {nodes : List String} {others : List RelationEdge}
    (ho : ∀ x ∈ others, x.source ≠ e.1) :
    (edgesOf r models e).foldl RelationGraph.link ⟨nodes, others⟩ =
      ⟨nodes, others ++ (neighbours r models e.1 e.2).map fun x => ⟨e.1, x.1, x.2⟩⟩ := by
  have hends : edgesOf r models e = (e.2.relations.values.flatMap fun relation =>
      (relation.targets r models e.1).map fun target => (target, relation.name)).map
        fun x => ⟨e.1, x.1, x.2⟩ := by
    rw [edgesOf, List.map_flatMap]
    exact List.flatMap_congr fun relation _ => by rw [List.map_map]; rfl
  have h := foldl_link_of_source nodes ho (e.2.relations.values.flatMap fun relation =>
    (relation.targets r models e.1).map fun target => (target, relation.name)) []
  rw [List.map_nil, List.append_nil] at h
  rw [hends, h, neighbours]

/-- Edge by edge the graph becomes what it is. -/
theorem grownGraph_eq (hn : models.keys.Nodup) : grownGraph r models = relationGraph r models := by
  -- The models that are still to come have no edges yet.
  have h (later : Models) (others : List RelationEdge) (hl : later.keys.Nodup)
      (ho : ∀ x ∈ others, x.source ∉ later.keys) :
      later.foldl (fun g e => (edgesOf r models e).foldl RelationGraph.link g)
          ⟨models.keys, others⟩ =
        ⟨models.keys, others ++ later.flatMap fun e =>
          (neighbours r models e.1 e.2).map fun x => ⟨e.1, x.1, x.2⟩⟩ := by
    induction later generalizing others with
    | nil => simp
    | cons e later ih =>
      obtain ⟨he, hl⟩ := List.nodup_cons.mp hl
      have hfirst : ∀ x ∈ others, x.source ≠ e.1 := fun x hx hs =>
        ho x hx (hs ▸ List.mem_cons_self)
      rw [List.foldl_cons, foldl_link_edgesOf hfirst, ih _ hl, List.flatMap_cons, List.append_assoc]
      intro x hx
      rcases List.mem_append.mp hx with hx | hx
      · exact fun hk => ho x hx (List.mem_cons_of_mem _ hk)
      · obtain ⟨y, -, rfl⟩ := List.mem_map.mp hx
        exact he
  rw [grownGraph, foldl_addNode _ _ hn, h _ _ hn fun x hx => (List.not_mem_nil hx).elim]
  rfl

/-! ## Neighbours -/

theorem mem_targets_iff (hr : r.names = models.keys) {relation : Relation} :
    target ∈ relation.targets r models source ↔
      target ∈ relation.resolved r ∧ target ≠ source := by
  rw [targets_eq hr, List.mem_filter, bne_iff_ne, Relation.resolved]

/-- The neighbours of a node are the related models. -/
theorem keys_neighbours (hr : r.names = models.keys) :
    (neighbours r models source model).keys = relatedModels r source model := by
  rw [neighbours, keys_foldl_unlessKey, relatedModels, Entries.keys, List.map_flatMap,
    List.filter_flatMap]
  refine congrArg _ (List.flatMap_congr fun relation _ => ?_)
  rw [List.map_map, targets_eq hr]
  exact List.map_id _

/-- The name of an edge is that of the first relation that leads to its end. -/
theorem map_name_firstRelation? (hr : r.names = models.keys) {x : String × String}
    (hx : x ∈ neighbours r models source model) :
    (firstRelation? r model x.1).map Relation.name = some x.2 := by
  have hne : x.1 ≠ source := by
    have hk : x.1 ∈ relatedModels r source model := keys_neighbours hr ▸ List.mem_map_of_mem hx
    simpa using (List.mem_filter.mp (List.mem_eraseDups.mp hk)).2
  rw [← find?_of_mem_foldl_unlessKey _ hx, firstRelation?]
  generalize model.relations.values = relations
  induction relations with
  | nil => rfl
  | cons relation relations ih =>
    rw [List.flatMap_cons, Entries.find?_append, ← ih, List.find?_cons]
    cases hc : (relation.resolved r).contains x.1 with
    | true =>
      have hmem : x.1 ∈ relation.targets r models source :=
        (mem_targets_iff hr).mpr ⟨List.contains_iff_mem.mp hc, hne⟩
      rw [Entries.find?_map_of_mem (f := fun _ => relation.name) hmem]
      rfl
    | false =>
      have hkeys : x.1 ∉ Entries.keys ((relation.targets r models source).map
          fun target => (target, relation.name)) := by
        rw [Entries.keys, List.map_map]
        intro h
        obtain ⟨target, ht, rfl⟩ := List.mem_map.mp h
        have hmem := List.contains_iff_mem.mpr ((mem_targets_iff hr).mp ht).1
        exact Bool.false_ne_true (hc.symm.trans hmem)
      rw [Entries.find?_eq_none_iff.mpr hkeys, Option.none_or]

theorem mem_edges_iff {edge : RelationEdge} :
    edge ∈ (relationGraph r models).edges ↔
      ∃ e ∈ models, ∃ x ∈ neighbours r models e.1 e.2, edge = ⟨e.1, x.1, x.2⟩ := by
  simp only [relationGraph, List.mem_flatMap, List.mem_map, eq_comm]

/-! ## Includes -/

/-- A related model is exposed, so it has a class. -/
theorem classOf?_of_mem_relatedModels {name n : String} (h : n ∈ relatedModels r name model) :
    r.classOf? n = some (className n r.classPrefix) := by
  obtain ⟨relation, -, hn⟩ := List.mem_flatMap.mp
    (List.mem_filter.mp (List.mem_eraseDups.mp h)).1
  obtain ⟨stated, -, hs⟩ := List.mem_filterMap.mp hn
  rw [Registry.classOf?, Registry.resolve?_of_resolve? hs, Option.map_some]

/-- The classes of the related models, in their order. -/
def relatedClasses (r : Registry) (name : String) (model : Model) : List String :=
  (relatedModels r name model).map fun n => className n r.classPrefix

theorem includeMap_eq_map (hn : models.keys.Nodup) (hr : r.names = models.keys) :
    includeMap r models = models.map fun e => (e.1, relatedClasses r e.1 e.2) := by
  rw [includeMap, Entries.keys, List.map_map]
  refine List.map_congr_left fun e he => Prod.ext rfl ?_
  rw [Function.comp_apply, successors_relationGraph hn he, keys_neighbours hr, relatedClasses,
    ← List.filterMap_eq_map]
  exact List.filterMap_congr fun n h => classOf?_of_mem_relatedModels h

theorem withIncludes_eq_map (hn : models.keys.Nodup) (hr : r.names = models.keys) :
    withIncludes r models =
      models.map fun e => (e.1, { e.2 with includes := relatedClasses r e.1 e.2 }) := by
  have hmap := includeMap_eq_map hn hr
  have hkeys : (includeMap r models).keys.Nodup := by
    rwa [hmap, Entries.keys, List.map_map]
  refine List.map_congr_left fun e he => ?_
  have hf : Entries.find? e.1 (includeMap r models) = some (relatedClasses r e.1 e.2) := by
    rw [Entries.find?_eq_some_iff hkeys, hmap]
    exact List.mem_map_of_mem (f := fun e => (e.1, relatedClasses r e.1 e.2)) he
  exact congrArg (fun o => (e.1, { e.2 with includes := Option.getD o [] })) hf

/-- Each model, in the order of the models, includes the classes of the models that its relations
lead to: in the order in which the relations state them, `model` before `through`, without regard to
case, the first of equal ones, and neither unknown ones nor the model itself. The graph of relations
has the models for nodes in their order, no edge from a model to itself, and on each edge the name
of the first relation that leads to its end; its successors are the related models, and it is what
grows edge by edge. -/
theorem includeMap_eq (r : Registry) (models : Models) (hn : models.keys.Nodup)
    (hr : r.names = models.keys) :
    includeMap r models = models.map (fun e => (e.1, relatedClasses r e.1 e.2)) ∧
    withIncludes r models =
      models.map (fun e => (e.1, { e.2 with includes := relatedClasses r e.1 e.2 })) ∧
    (∀ e ∈ models, ∀ n ∈ relatedModels r e.1 e.2,
      r.classOf? n = some (className n r.classPrefix)) ∧
    (relationGraph r models).nodes = models.keys ∧
    (∀ e ∈ models, (relationGraph r models).successors e.1 = relatedModels r e.1 e.2) ∧
    (∀ edge ∈ (relationGraph r models).edges, edge.source ≠ edge.target ∧
      ∃ e ∈ models, e.1 = edge.source ∧
        (firstRelation? r e.2 edge.target).map Relation.name = some edge.relation) ∧
    grownGraph r models = relationGraph r models := by
  refine ⟨includeMap_eq_map hn hr, withIncludes_eq_map hn hr,
    fun _ _ _ h => classOf?_of_mem_relatedModels h, rfl, fun e he => ?_, fun edge hedge => ?_,
    grownGraph_eq hn⟩
  · rw [successors_relationGraph hn he, keys_neighbours hr]
  · obtain ⟨e, he, x, hx, rfl⟩ := mem_edges_iff.mp hedge
    refine ⟨fun hs => ?_, e, he, rfl, map_name_firstRelation? hr hx⟩
    have hk : x.1 ∈ relatedModels r e.1 e.2 := keys_neighbours hr ▸ List.mem_map_of_mem hx
    exact bne_iff_ne.mp (List.mem_filter.mp (List.mem_eraseDups.mp hk)).2 hs.symm

/-- A model that has nothing but relations. -/
def relatedModel (name : String) (relations : List Relation) : String × Model :=
  (name, { name, pluralName := name, baseModel := .null,
           relations := relations.map fun relation => (relation.name, relation) })

/-- A model that states another one twice, itself, and one that is not exposed. -/
theorem includeMap_eq_heron :
    let models : Models :=
      [relatedModel "heron" [{ name := "nests", model := some "Nest", through := some "reed" },
        { name := "young", model := some "Heron" }, { name := "prey", model := some "fish" },
        { name := "home", model := some "NEST" }],
       relatedModel "nest" [], relatedModel "Reed" [{ name := "owner", through := some "heron" }]]
    let r : Registry := ⟨models.keys, "XX"⟩
    models.keys.Nodup ∧ r.names = models.keys ∧
      includeMap r models = [("heron", ["XXNest", "XXReed"]), ("nest", []), ("Reed", ["XXHeron"])] ∧
      (relationGraph r models).successors "heron" = ["nest", "Reed"] := by
  intro models r
  have hn : models.keys.Nodup := by decide +kernel
  have h := includeMap_eq r models hn rfl
  refine ⟨hn, rfl, h.1.trans ?_, (h.2.2.2.2.1 _ List.mem_cons_self).trans ?_⟩ <;> decide +kernel

end RemoteBindings
