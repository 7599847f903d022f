import RemoteBindings.Proofs.Entries
import RemoteBindings.Yaml.Reader

/-!
# Values of the nodes of a tree

Where the nodes of a graph from the root on are a tree of sequences, mappings with texts as keys and
plain scalars (`Stands`), the document has the value that the tree spells out (`value?_of_stands`).
The collections are filled round by round: what is found is filled or waits (`Progress`), and each
round finds only nodes with larger numbers, so that the rounds suffice.
-/

namespace RemoteBindings.Yaml

/-- A scalar whose value does not depend on its place. -/
def IsLeaf (tag : Tag) (text : String) (v : Value) : Prop :=
  tag ∈ [.null, .bool, .int, .float, .str] ∧
    ∀ origin start, scalarValue origin start tag text = .ok v

theorem isLeaf_str (s : String) : IsLeaf .str s (.text s) := ⟨by simp, fun _ _ => rfl⟩

/-- An entry of a mapping: the nodes of its key and its value, and what they stand for. -/
structure Member where
  key : NodeId
  name : String
  value : NodeId
  content : Value

namespace Member

def pair (m : Member) : Pair := (m.key, m.value)

def entry (m : Member) : Value × Value := (.text m.name, m.content)

end Member

/-- The nodes of a graph from some node on are a tree with a value: each part of a collection has a
larger number than the collection. -/
inductive Stands (g : Graph) : NodeId → Value → Prop
  | leaf {id : NodeId} {tag : Tag} {text : String} {start : Mark} {v : Value}
    (hid : id < g.nodes.size) (hnode : g.node id = ⟨tag, .scalar text, start⟩)
    (hleaf : IsLeaf tag text v) : Stands g id v
  | list {id : NodeId} {start : Mark} {parts : List (NodeId × Value)} (hid : id < g.nodes.size)
    (hnode : g.node id = ⟨.seq, .sequence (parts.map Prod.fst), start⟩)
    (hlt : ∀ e ∈ parts, id < e.1) (hparts : ∀ e ∈ parts, Stands g e.1 e.2) :
    Stands g id (.list (parts.map Prod.snd))
  | map {id : NodeId} {start : Mark} {members : List Member} (hid : id < g.nodes.size)
    (hnode : g.node id = ⟨.map, .mapping (members.map Member.pair), start⟩)
    (hlt : ∀ m ∈ members, id < m.key ∧ id < m.value)
    (hkeys : ∀ m ∈ members, Stands g m.key (.text m.name))
    (hparts : ∀ m ∈ members, Stands g m.value m.content) :
    Stands g id (.map (Entries.ofList (members.map Member.entry)))

variable {g : Graph} {id : NodeId} {v : Value}

theorem Stands.lt_size (h : Stands g id v) : id < g.nodes.size := by
  cases h <;> assumption

/-- The nodes from the first one of a tree on are all that counts. -/
theorem Stands.congr {g' : Graph} (h : Stands g id v) (hsize : g.nodes.size ≤ g'.nodes.size)
    (hnode : ∀ i, id ≤ i → i < g.nodes.size → g'.node i = g.node i) : Stands g' id v := by
  induction h with
  | leaf hid hn hleaf =>
    exact .leaf (Nat.lt_of_lt_of_le hid hsize) ((hnode _ le_rfl hid).trans hn) hleaf
  | list hid hn hlt hparts ih =>
    refine .list (Nat.lt_of_lt_of_le hid hsize) ((hnode _ le_rfl hid).trans hn) hlt ?_
    exact fun e he => ih e he fun i hi => hnode i (Nat.le_of_lt (Nat.lt_of_lt_of_le (hlt e he) hi))
  | map hid hn hlt hkeys hparts ihkeys ih =>
    refine .map (Nat.lt_of_lt_of_le hid hsize) ((hnode _ le_rfl hid).trans hn) hlt ?_ ?_
    · exact fun m hm => ihkeys m hm fun i hi =>
        hnode i (Nat.le_of_lt (Nat.lt_of_lt_of_le (hlt m hm).1 hi))
    · exact fun m hm => ih m hm fun i hi =>
        hnode i (Nat.le_of_lt (Nat.lt_of_lt_of_le (hlt m hm).2 hi))

theorem IsLeaf.not_isCollection {tag : Tag} {text : String} (h : IsLeaf tag text v) :
    Filling.isCollection tag = false := by
  have hall : ∀ t ∈ [Tag.null, .bool, .int, .float, .str], Filling.isCollection t = false := by
    decide
  exact hall tag h.1

namespace Filling

theorem scalarOf_leaf {tag : Tag} {text : String} {start : Mark}
    (hnode : g.node id = ⟨tag, .scalar text, start⟩) (h : IsLeaf tag text v) :
    scalarOf g id = .ok v := by
  have htext : g.text id = .ok text := by
    rw [Graph.text, Graph.textOf, hnode]
  have hvalue := h.2 (id + 1) start
  have htag := h.1
  simp only [List.mem_cons, List.not_mem_nil, or_false] at htag
  rcases htag with rfl | rfl | rfl | rfl | rfl <;>
    · simp only [scalarOf, hnode, htext]
      exact hvalue

/-- The value of a node that is no collection; nothing if it has none. -/
def leafValue (g : Graph) (id : NodeId) : Value :=
  match scalarOf g id with
  | .ok v => v
  | .error _ => .null

/-- The part that a node is in a collection. -/
def partOf (g : Graph) (id : NodeId) : Part :=
  if isCollection (g.tag id) then .collection id else .leaf (leafValue g id)

/-- The parts of a collection in their order. -/
def children (g : Graph) (id : NodeId) : List NodeId :=
  match (g.node id).content with
  | .sequence ids => ids
  | .mapping es => es.flatMap fun e => [e.1, e.2]
  | .scalar _ => []

/-- The collection that a node is. -/
def collectionOf (g : Graph) (id : NodeId) : Collection :=
  match (g.node id).content with
  | .sequence ids => .list (ids.map (partOf g))
  | .mapping es => .map (Entries.ofList (es.map fun e => (leafValue g e.1, partOf g e.2)))
  | .scalar _ => .list []

/-- A node that can be visited. -/
def Visitable (g : Graph) (id : NodeId) : Prop :=
  id < g.nodes.size ∧
    (isCollection (g.tag id) = true ∨ scalarOf g id = .ok (leafValue g id))

theorem visitable_of_stands (h : Stands g id v) : Visitable g id := by
  refine ⟨h.lt_size, ?_⟩
  cases h with
  | leaf hid hnode hleaf =>
    have hvalue := scalarOf_leaf hnode hleaf
    exact .inr (hvalue.trans (by rw [leafValue, hvalue]))
  | list hid hnode => exact .inl (by rw [Graph.tag, hnode]; rfl)
  | map hid hnode => exact .inl (by rw [Graph.tag, hnode]; rfl)

theorem exists_leaf_of_text {s : String} (h : Stands g id (.text s)) :
    ∃ tag text start, g.node id = ⟨tag, .scalar text, start⟩ ∧ IsLeaf tag text (.text s) := by
  generalize hv : Value.text s = v at h
  cases h with
  | leaf hid hnode hleaf => exact ⟨_, _, _, hnode, hv ▸ hleaf⟩
  | list => cases hv
  | map => cases hv

/-- A key that is no collection and no mark. -/
def IsKey (g : Graph) (id : NodeId) : Prop :=
  Visitable g id ∧ isCollection (g.tag id) = false ∧ g.tag id ≠ .merge ∧ g.tag id ≠ .value

theorem isKey_of_stands {s : String} (h : Stands g id (.text s)) : IsKey g id := by
  obtain ⟨tag, text, start, hnode, hleaf⟩ := exists_leaf_of_text h
  have htags : ∀ t ∈ [Tag.null, .bool, .int, .float, .str], t ≠ .merge ∧ t ≠ .value := by decide
  rw [IsKey, Graph.tag, hnode]
  exact ⟨visitable_of_stands h, hleaf.not_isCollection, htags tag hleaf.1⟩

/-! ## Visits -/

variable {f f' f'' : Filling} {ids ids' : List NodeId}

/-- A filling of a graph so far, with numbers of nodes for all its parts. -/
structure Sound (g : Graph) (f : Filling) : Prop where
  graph : f.graph = g
  size : f.parts.size = g.nodes.size
  parts : ∀ i p, f.parts.getD i none = some p → p = partOf g i

/-- What visits of some nodes change. -/
structure Visits (g : Graph) (ids : List NodeId) (f f' : Filling) : Prop where
  sound : Sound g f'
  collections : f'.collections = f.collections
  parts : ∀ i, f'.parts.getD i none = if i ∈ ids then some (partOf g i) else f.parts.getD i none
  found : ∀ i, i ∈ f'.found ↔ i ∈ f.found ∨
    (i ∈ ids ∧ f.parts.getD i none = none ∧ isCollection (g.tag i) = true)

theorem Visits.nil (h : Sound g f) : Visits g [] f f := ⟨h, rfl, by simp, by simp⟩

theorem Visits.trans (h : Visits g ids f f') (h' : Visits g ids' f' f'') :
    Visits g (ids ++ ids') f f'' := by
  refine ⟨h'.sound, h'.collections.trans h.collections, fun i => ?_, fun i => ?_⟩
  · rw [h'.parts, h.parts]
    by_cases hi : i ∈ ids <;> by_cases hi' : i ∈ ids' <;> simp [hi, hi']
  · rw [h'.found, h.found, h.parts]
    by_cases hi : i ∈ ids <;> simp [hi]

theorem run_bind_ok {α β : Type} {m : Step α} {k : α → Step β} {a : α}
    (h : m.run f = .ok (a, f')) : (m >>= k).run f = (k a).run f' := by
  rw [StateT.run_bind, h]
  rfl

theorem visit_run_of_some {p : Part} (hp : f.parts.getD id none = some p) :
    (visit id).run f = .ok (p, f) := by
  simp only [visit, StateT.run_bind, StateT.run_get, pure_bind, hp]
  rfl

theorem visit_run_of_none (hp : f.parts.getD id none = none) :
    (visit id).run f =
      if isCollection (f.graph.tag id) then .ok (.collection id, { f with
        parts := f.parts.setIfInBounds id (some (.collection id)), found := id :: f.found })
      else (scalarOf f.graph id).map fun v => (.leaf v, { f with
        parts := f.parts.setIfInBounds id (some (.leaf v)) }) := by
  simp only [visit, StateT.run_bind, StateT.run_get, pure_bind, hp]
  by_cases hc : isCollection (f.graph.tag id) = true
  · rw [if_pos hc, if_pos hc]
    rfl
  · rw [if_neg hc, if_neg hc]
    cases scalarOf f.graph id <;> rfl

theorem getD_set {α : Type} (xs : Array (Option α)) {i : Nat} (j : Nat) (x : α)
    (hi : i < xs.size) :
    (xs.setIfInBounds i (some x)).getD j none = if j = i then some x else xs.getD j none := by
  by_cases hj : j = i
  · subst hj
    simp [hi]
  · simp [hj, Ne.symm hj]

theorem visits_of_set (h : Sound g f) (hid : id < g.nodes.size)
    (hp : f.parts.getD id none = none) {found : List NodeId}
    (hfound : found = if isCollection (g.tag id) then id :: f.found else f.found) :
    Visits g [id] f
      { f with parts := f.parts.setIfInBounds id (some (partOf g id)), found := found } := by
  have hget (i : Nat) : (f.parts.setIfInBounds id (some (partOf g id))).getD i none =
      if i = id then some (partOf g id) else f.parts.getD i none := getD_set _ _ _ (h.size ▸ hid)
  refine ⟨⟨h.graph, by simpa using h.size, fun i p hi => ?_⟩, rfl, fun i => ?_, fun i => ?_⟩
  · rw [hget] at hi
    split at hi
    · next heq => rw [heq, Option.some.inj hi]
    · exact h.parts i p hi
  · rw [hget]
    by_cases hi : i = id <;> simp [hi]
  · rw [hfound]
    by_cases hi : i = id
    · by_cases hc : isCollection (g.tag id) = true <;> simp [hi, hc, hp]
    · by_cases hc : isCollection (g.tag id) = true <;> simp [hi, hc]

theorem visit_run (h : Sound g f) (hv : Visitable g id) :
    ∃ f', (visit id).run f = .ok (partOf g id, f') ∧ Visits g [id] f f' := by
  cases hp : f.parts.getD id none with
  | some p =>
    obtain rfl := h.parts id p hp
    refine ⟨f, visit_run_of_some hp, h, rfl, fun i => ?_, fun i => ?_⟩
    · by_cases hi : i = id
      · rw [hi, hp, if_pos List.mem_cons_self]
      · rw [if_neg (by simpa using hi)]
    · by_cases hi : i = id <;> simp [hi, hp]
  | none =>
    have hrun := visit_run_of_none hp
    obtain rfl := h.graph
    by_cases hc : isCollection (f.graph.tag id) = true
    · rw [if_pos hc] at hrun
      have hset := visits_of_set h hv.1 hp (if_pos hc).symm
      rw [partOf, if_pos hc] at hset ⊢
      exact ⟨_, hrun, hset⟩
    · rw [if_neg hc, hv.2.resolve_left hc] at hrun
      have hset := visits_of_set h hv.1 hp (if_neg hc).symm
      rw [partOf, if_neg hc] at hset ⊢
      exact ⟨_, hrun, hset⟩

/-- Items are visited one after the other. -/
theorem visitItems_run (h : Sound g f) (hv : ∀ i ∈ ids, Visitable g i) :
    ∃ f', (ids.mapM visit).run f = .ok (ids.map (partOf g), f') ∧ Visits g ids f f' := by
  induction ids generalizing f with
  | nil => exact ⟨f, rfl, .nil h⟩
  | cons id ids ih =>
    obtain ⟨hid, hids⟩ := List.forall_mem_cons.mp hv
    obtain ⟨f₁, hrun, hvisits⟩ := visit_run h hid
    obtain ⟨f₂, hrun', hvisits'⟩ := ih hvisits.sound hids
    refine ⟨f₂, ?_, hvisits.trans hvisits'⟩
    rw [List.mapM_cons, run_bind_ok hrun, run_bind_ok hrun']
    rfl

theorem visitEntry_run (h : Sound g f) (start : Mark) {e : Pair} (hk : IsKey g e.1)
    (hv : Visitable g e.2) :
    ∃ f', (visitEntry start e).run f = .ok ((leafValue g e.1, partOf g e.2), f') ∧
      Visits g [e.1, e.2] f f' := by
  obtain ⟨f₁, hrun, hvisits⟩ := visit_run h hk.1
  obtain ⟨f₂, hrun', hvisits'⟩ := visit_run hvisits.sound hv
  refine ⟨f₂, ?_, hvisits.trans hvisits'⟩
  have hleaf : partOf g e.1 = .leaf (leafValue g e.1) := by rw [partOf, hk.2.1]; rfl
  rw [hleaf] at hrun
  rw [visitEntry, run_bind_ok hrun]
  show (visit e.2 >>= fun p => pure (leafValue g e.1, p)).run f₁ = _
  rw [run_bind_ok hrun']
  rfl

theorem visitMembers_run (h : Sound g f) (start : Mark) {es : List Pair}
    (hes : ∀ e ∈ es, IsKey g e.1 ∧ Visitable g e.2) :
    ∃ f', (es.mapM (visitEntry start)).run f =
        .ok (es.map fun e => (leafValue g e.1, partOf g e.2), f') ∧
      Visits g (es.flatMap fun e => [e.1, e.2]) f f' := by
  induction es generalizing f with
  | nil => exact ⟨f, rfl, .nil h⟩
  | cons e es ih =>
    obtain ⟨he, hes⟩ := List.forall_mem_cons.mp hes
    obtain ⟨f₁, hrun, hvisits⟩ := visitEntry_run h start he.1 he.2
    obtain ⟨f₂, hrun', hvisits'⟩ := ih hvisits.sound hes
    refine ⟨f₂, ?_, hvisits.trans hvisits'⟩
    rw [List.mapM_cons, run_bind_ok hrun, run_bind_ok hrun']
    rfl

/-! ## Collections -/

theorem put_node (g : Graph) (id : NodeId) : g.put id (g.node id) = g := by
  have h : g.nodes.setIfInBounds id (g.node id) = g.nodes := by
    refine Array.ext (by simp) fun i hi hi' => ?_
    rw [Array.getElem_setIfInBounds]
    split
    · next heq =>
      subst heq
      simp [Graph.node, hi']
    · rfl
  rw [Graph.put, h]

/-- There is nothing to be merged into a mapping without marks. -/
theorem flatten_eq {es : List Pair} (hcontent : (g.node id).content = .mapping es)
    (hes : ∀ e ∈ es, g.tag e.1 ≠ .merge ∧ g.tag e.1 ≠ .value) : g.flatten id = .ok g := by
  have hentries : (g.node id).entries = es := by rw [Node.entries, hcontent]
  have hmerge : g.takeMerge? es = none := by
    clear hcontent hentries
    induction es with
    | nil => rfl
    | cons e es ih =>
      obtain ⟨he, hes⟩ := List.forall_mem_cons.mp hes
      have hne : (g.tag e.1 == .merge) = false := by simpa using he.1
      simp only [Graph.takeMerge?, hne, ih hes, Bool.false_eq_true, if_false, Option.map_none]
  have hplain : es.foldl Graph.plainKey g = g := by
    clear hcontent hentries hmerge
    induction es with
    | nil => rfl
    | cons e es ih =>
      obtain ⟨he, hes⟩ := List.forall_mem_cons.mp hes
      have hne : (g.tag e.1 == .value) = false := by simpa using he.2
      simp only [List.foldl_cons, Graph.plainKey, hne, Bool.false_eq_true, if_false, ih hes]
  have hset : g.setEntries id es = g := by
    rw [Graph.setEntries, ← hcontent]
    exact put_node g id
  simp only [Graph.flatten, Graph.flattenFrom, hentries, hmerge, hplain, List.nil_append, hset]

/-- A node with the parts of a collection, all of which can be visited. -/
inductive IsNest (g : Graph) (id : NodeId) : Prop
  | list {ids : List NodeId} {start : Mark} (hnode : g.node id = ⟨.seq, .sequence ids, start⟩)
    (hids : ∀ i ∈ ids, Visitable g i)
  | map {es : List Pair} {start : Mark} (hnode : g.node id = ⟨.map, .mapping es, start⟩)
    (hes : ∀ e ∈ es, IsKey g e.1 ∧ Visitable g e.2)

theorem fill_run_eq {start : Mark} {tag : Tag} {content : Content}
    (hnode : f.graph.node id = ⟨tag, content, start⟩) {m : Step Collection}
    (hm : (tag = .seq ∧ ∃ ids, content = .sequence ids ∧
        m = Collection.list <$> ids.mapM visit) ∨
      (tag = .map ∧ ∃ es, content = .mapping es ∧ m = Collection.map <$> visitEntries id)) :
    (fill id).run f = (m >>= fun c => modify fun f => { f with
      collections := f.collections.setIfInBounds id (some c) }).run f := by
  rcases hm with ⟨rfl, ids, rfl, rfl⟩ | ⟨rfl, es, rfl, rfl⟩
  · simp only [fill, StateT.run_bind, StateT.run_get, pure_bind, hnode]
  · simp only [fill, StateT.run_bind, StateT.run_get, pure_bind, hnode]

theorem visitEntries_run (h : Sound g f) {start : Mark} {es : List Pair}
    (hnode : g.node id = ⟨.map, .mapping es, start⟩)
    (hes : ∀ e ∈ es, IsKey g e.1 ∧ Visitable g e.2) :
    ∃ f', (visitEntries id).run f =
        .ok (Entries.ofList (es.map fun e => (leafValue g e.1, partOf g e.2)), f') ∧
      Visits g (es.flatMap fun e => [e.1, e.2]) f f' := by
  obtain ⟨f₁, hrun, hvisits⟩ := visitMembers_run h start hes
  have hflat := flatten_eq (by rw [hnode]) fun e he => (hes e he).1.2.2
  refine ⟨f₁, ?_, hvisits⟩
  obtain rfl := h.graph
  simp only [visitEntries, StateT.run_bind, StateT.run_get, pure_bind, hflat]
  show ((f.graph.node id).entries.mapM (visitEntry (f.graph.node id).start) >>=
    fun es => pure (Entries.ofList es)).run f = _
  rw [hnode]
  exact run_bind_ok hrun

theorem fill_run (h : Sound g f) (hn : IsNest g id) :
    ∃ f₁, Visits g (children g id) f f₁ ∧ (fill id).run f = .ok ((), { f₁ with
      collections := f₁.collections.setIfInBounds id (some (collectionOf g id)) }) := by
  cases hn with
  | @list ids start hnode hids =>
    obtain ⟨f₁, hrun, hvisits⟩ := visitItems_run h hids
    refine ⟨f₁, by rwa [children, hnode], ?_⟩
    have hlist : (Collection.list <$> ids.mapM visit).run f =
        .ok (.list (ids.map (partOf g)), f₁) := by
      rw [StateT.run_map, hrun]
      rfl
    rw [fill_run_eq (h.graph.symm ▸ hnode) (.inl ⟨rfl, _, rfl, rfl⟩), run_bind_ok hlist,
      collectionOf, hnode]
    rfl
  | @map es start hnode hes =>
    obtain ⟨f₁, hrun, hvisits⟩ := visitEntries_run h hnode hes
    refine ⟨f₁, by rwa [children, hnode], ?_⟩
    have hmap : (Collection.map <$> visitEntries id).run f = .ok (.map (Entries.ofList
        (es.map fun e => (leafValue g e.1, partOf g e.2))), f₁) := by
      rw [StateT.run_map, hrun]
      rfl
    rw [fill_run_eq (h.graph.symm ▸ hnode) (.inr ⟨rfl, _, rfl, rfl⟩), run_bind_ok hmap,
      collectionOf, hnode]
    rfl

/-! ## Rounds -/

/-- How far a filling with the value of a root has come, with the collections in `todo` still to
be filled. -/
structure Progress (g : Graph) (root : NodeId) (todo : List NodeId) (f : Filling) : Prop where
  sound : Sound g f
  size : f.collections.size = g.nodes.size
  root : f.parts.getD root none = some (partOf g root)
  /-- The parts of what is filled have values. -/
  filled : ∀ i c, f.collections.getD i none = some c → c = collectionOf g i ∧
    ∀ j ∈ children g i, f.parts.getD j none = some (partOf g j)
  /-- What is found is filled or will be. -/
  pending : ∀ i, isCollection (g.tag i) = true → f.parts.getD i none = some (partOf g i) →
    i ∈ f.found ∨ i ∈ todo ∨ ∃ c, f.collections.getD i none = some c

variable {root : NodeId} {todo : List NodeId}

theorem Progress.fill (h : Progress g root (id :: todo) f) (hid : id < g.nodes.size)
    (hn : IsNest g id) :
    ∃ f', (fill id).run f = .ok ((), f') ∧ Progress g root todo f' ∧
      ∀ i ∈ f'.found, i ∈ f.found ∨ (i ∈ children g id ∧ isCollection (g.tag i) = true) := by
  obtain ⟨f₁, hvisits, hrun⟩ := fill_run h.sound hn
  have hkept {i : NodeId} {p : Part} (hp : f.parts.getD i none = some p) :
      f₁.parts.getD i none = some p := by
    rw [hvisits.parts]
    split
    · rw [h.sound.parts i p hp]
    · exact hp
  have hsize : id < f₁.collections.size := by rw [hvisits.collections, h.size]; exact hid
  have hsound := hvisits.sound
  refine ⟨_, hrun, ⟨⟨hsound.graph, hsound.size, hsound.parts⟩, ?_, hkept h.root,
    fun i c hc => ?_, fun i hi hp => ?_⟩, fun i hi => ?_⟩
  · simp [hvisits.collections, h.size]
  · rw [getD_set _ _ _ hsize] at hc
    split at hc
    · next heq =>
      obtain rfl := Option.some.inj hc
      rw [heq]
      exact ⟨rfl, fun j hj => (hvisits.parts j).trans (if_pos hj)⟩
    · rw [hvisits.collections] at hc
      obtain ⟨hc, hparts⟩ := h.filled i c hc
      exact ⟨hc, fun j hj => hkept (hparts j hj)⟩
  · have hset := getD_set f₁.collections i (collectionOf g id) hsize
    cases hbefore : f.parts.getD i none with
    | none =>
      have hmem : i ∈ children g id := by
        by_contra hnot
        rw [hvisits.parts, if_neg hnot, hbefore] at hp
        cases hp
      exact .inl ((hvisits.found i).mpr (.inr ⟨hmem, hbefore, hi⟩))
    | some p =>
      obtain rfl := h.sound.parts i p hbefore
      rcases h.pending i hi hbefore with hfound | htodo | ⟨c, hc⟩
      · exact .inl ((hvisits.found i).mpr (.inl hfound))
      · rcases List.mem_cons.mp htodo with rfl | htodo
        · exact .inr (.inr ⟨_, hset.trans (if_pos rfl)⟩)
        · exact .inr (.inl htodo)
      · rw [← hvisits.collections] at hc
        by_cases heq : i = id
        · exact .inr (.inr ⟨_, hset.trans (if_pos heq)⟩)
        · exact .inr (.inr ⟨c, (hset.trans (if_neg heq)).trans hc⟩)
  · exact ((hvisits.found i).mp hi).imp_right fun ⟨hmem, _, hc⟩ => ⟨hmem, hc⟩

/-- A node that stands for a collection. -/
def IsFound (g : Graph) (bound : Nat) (id : NodeId) : Prop :=
  (∃ v, Stands g id v) ∧ isCollection (g.tag id) = true ∧ g.nodes.size ≤ id + bound

theorem isNest_of_stands (h : Stands g id v) (hc : isCollection (g.tag id) = true) :
    IsNest g id ∧ ∀ i ∈ children g id, id < i ∧ ∃ v, Stands g i v := by
  cases h with
  | leaf hid hnode hleaf =>
    rw [Graph.tag, hnode, hleaf.not_isCollection] at hc
    cases hc
  | list hid hnode hlt hparts =>
    refine ⟨.list hnode fun i hi => ?_, fun i hi => ?_⟩
    · obtain ⟨e, he, rfl⟩ := List.mem_map.mp hi
      exact visitable_of_stands (hparts e he)
    · rw [children, hnode] at hi
      obtain ⟨e, he, rfl⟩ := List.mem_map.mp hi
      exact ⟨hlt e he, e.2, hparts e he⟩
  | map hid hnode hlt hkeys hparts =>
    refine ⟨.map hnode fun e he => ?_, fun i hi => ?_⟩
    · obtain ⟨m, hm, rfl⟩ := List.mem_map.mp he
      exact ⟨isKey_of_stands (hkeys m hm), visitable_of_stands (hparts m hm)⟩
    · rw [children, hnode] at hi
      obtain ⟨e, he, hi⟩ := List.mem_flatMap.mp hi
      obtain ⟨m, hm, rfl⟩ := List.mem_map.mp he
      simp only [Member.pair, List.mem_cons, List.not_mem_nil, or_false] at hi
      rcases hi with rfl | rfl
      · exact ⟨(hlt m hm).1, _, hkeys m hm⟩
      · exact ⟨(hlt m hm).2, _, hparts m hm⟩

theorem Progress.fillEach {bound : Nat} (h : Progress g root todo f)
    (htodo : ∀ i ∈ todo, IsFound g (bound + 1) i) (hfound : ∀ i ∈ f.found, IsFound g bound i) :
    ∃ f', (todo.forM Filling.fill).run f = .ok ((), f') ∧ Progress g root [] f' ∧
      ∀ i ∈ f'.found, IsFound g bound i := by
  induction todo generalizing f with
  | nil => exact ⟨f, rfl, h, hfound⟩
  | cons id todo ih =>
    obtain ⟨⟨⟨v, hv⟩, hc, hbound⟩, htodo⟩ := List.forall_mem_cons.mp htodo
    obtain ⟨hnest, hchildren⟩ := isNest_of_stands hv hc
    obtain ⟨f₁, hrun, hprogress, hnew⟩ := h.fill hv.lt_size hnest
    obtain ⟨f₂, hrun', hprogress', hfound'⟩ := ih hprogress htodo fun i hi => by
      rcases hnew i hi with hold | ⟨hmem, hci⟩
      · exact hfound i hold
      · obtain ⟨hlt, hstands⟩ := hchildren i hmem
        have hstep : id + (bound + 1) ≤ i + bound := by
          rw [Nat.add_comm bound 1, ← Nat.add_assoc]
          exact Nat.add_le_add_right hlt bound
        exact ⟨hstands, hci, Nat.le_trans hbound hstep⟩
    refine ⟨f₂, ?_, hprogress', hfound'⟩
    show (Filling.fill id >>= fun _ => todo.forM Filling.fill).run f = _
    rw [run_bind_ok hrun, hrun']

theorem Progress.fillAll (h : Progress g root [] f) (fuel : Nat)
    (hfound : ∀ i ∈ f.found, IsFound g fuel i) :
    ∃ f', (Filling.fillAll fuel).run f = .ok ((), f') ∧ Progress g root [] f' ∧ f'.found = [] := by
  induction fuel generalizing f with
  | zero =>
    refine ⟨f, rfl, h, List.eq_nil_iff_forall_not_mem.mpr fun i hi => ?_⟩
    obtain ⟨⟨v, hv⟩, -, hbound⟩ := hfound i hi
    exact absurd hv.lt_size (Nat.not_lt.mpr hbound)
  | succ fuel ih =>
    by_cases hnil : f.found = []
    · refine ⟨f, ?_, h, hnil⟩
      simp only [Filling.fillAll, StateT.run_bind, StateT.run_get, pure_bind, hnil]
      rfl
    · have hstart : Progress g root f.found.reverse { f with found := [] } := by
        refine ⟨⟨h.sound.graph, h.sound.size, h.sound.parts⟩, h.size, h.root, h.filled,
          fun i hi hp => ?_⟩
        rcases h.pending i hi hp with hmem | hmem | hdone
        · exact .inr (.inl (List.mem_reverse.mpr hmem))
        · cases hmem
        · exact .inr (.inr hdone)
      obtain ⟨f₁, hrun, hprogress, hnew⟩ := hstart.fillEach
        (fun i hi => hfound i (List.mem_reverse.mp hi)) (by simp)
      obtain ⟨f₂, hrun', hprogress', hdone⟩ := ih hprogress hnew
      refine ⟨f₂, ?_, hprogress', hdone⟩
      have hempty : f.found.isEmpty = false := List.isEmpty_eq_false_iff.mpr hnil
      simp only [Filling.fillAll, StateT.run_bind, StateT.run_get, pure_bind, hempty]
      show (f.found.reverse.forM Filling.fill >>= fun _ => Filling.fillAll fuel).run
        { f with found := [] } = _
      rw [run_bind_ok hrun, hrun']

/-! ## The value of the root -/

theorem leafValue_of_stands {s : String} (h : Stands g id (.text s)) :
    leafValue g id = .text s := by
  obtain ⟨tag, text, start, hnode, hleaf⟩ := exists_leaf_of_text h
  rw [leafValue, scalarOf_leaf hnode hleaf]

theorem Progress.value_collection (h : Progress g root [] f) (hdone : f.found = [])
    (hc : isCollection (g.tag id) = true) (hp : f.parts.getD id none = some (partOf g id))
    (hid : id < g.nodes.size) {fuel : Nat} {around : List NodeId}
    (hfuel : g.nodes.size < id + fuel) (haround : ∀ i ∈ around, i < id) :
    (∀ j ∈ children g id, f.parts.getD j none = some (partOf g j)) ∧
    ∃ k, fuel = k + 1 ∧ f.value false fuel around (partOf g id) =
      (match collectionOf g id with
      | .list items => .list (items.map (f.value false k (id :: around)))
      | .pairs items => .list (items.map fun e =>
          .tuple [f.value false k (id :: around) e.1, f.value false k (id :: around) e.2])
      | .set items => .set items
      | .map entries => .map (entries.map fun e => (e.1, f.value false k (id :: around) e.2))) := by
  have hpart : partOf g id = .collection id := if_pos hc
  obtain ⟨k, rfl⟩ : ∃ k, fuel = k + 1 := by
    cases fuel with
    | zero => exact absurd hid (Nat.lt_asymm hfuel)
    | succ k => exact ⟨k, rfl⟩
  have hnot : around.contains id = false := by
    simpa using fun hmem => Nat.lt_irrefl _ (haround id hmem)
  rcases h.pending id hc hp with hmem | hmem | ⟨c, hget⟩
  · rw [hdone] at hmem
    cases hmem
  · cases hmem
  · obtain ⟨rfl, hchildren⟩ := h.filled id c hget
    refine ⟨hchildren, k, rfl, ?_⟩
    rw [hpart, Filling.value, hget]
    dsimp only
    rw [hnot]
    rfl

theorem lt_add_of_lt {n i j k : Nat} (h : n < i + (k + 1)) (hij : i < j) : n < j + k := by omega

theorem forall_lt_of_lt {around : List NodeId} {j : NodeId} (h : ∀ i ∈ around, i < id)
    (hj : id < j) : ∀ i ∈ id :: around, i < j :=
  List.forall_mem_cons.mpr ⟨hj, fun i hi => Nat.lt_trans (h i hi) hj⟩

/-- What a filled collection stands for, inside of collections with smaller numbers. -/
theorem Progress.value_eq (h : Progress g root [] f) (hdone : f.found = []) (hs : Stands g id v)
    (hp : f.parts.getD id none = some (partOf g id)) {fuel : Nat} {around : List NodeId}
    (hfuel : g.nodes.size < id + fuel) (haround : ∀ i ∈ around, i < id) :
    f.value false fuel around (partOf g id) = v := by
  induction hs generalizing fuel around with
  | @leaf id _ _ _ _ hid hnode hleaf =>
    have hpart : partOf g id = .leaf (leafValue g id) :=
      if_neg (by rw [Graph.tag, hnode, hleaf.not_isCollection]; exact Bool.false_ne_true)
    rw [hpart, leafValue, scalarOf_leaf hnode hleaf, Filling.value]
  | @list id start parts hid hnode hlt hparts ih =>
    have hc : isCollection (g.tag id) = true := by rw [Graph.tag, hnode]; rfl
    obtain ⟨hchildren, k, rfl, hvalue⟩ := h.value_collection hdone hc hp hid hfuel haround
    rw [hvalue, collectionOf, hnode]
    rw [children, hnode] at hchildren
    show Value.list (((parts.map Prod.fst).map (partOf g)).map _) = _
    rw [List.map_map, List.map_map]
    refine congrArg Value.list (List.map_congr_left fun e he => ?_)
    exact ih e he (hchildren e.1 (List.mem_map_of_mem he)) (lt_add_of_lt hfuel (hlt e he))
      (forall_lt_of_lt haround (hlt e he))
  | @map id start members hid hnode hlt hkeys hparts _ ih =>
    have hc : isCollection (g.tag id) = true := by rw [Graph.tag, hnode]; rfl
    obtain ⟨hchildren, k, rfl, hvalue⟩ := h.value_collection hdone hc hp hid hfuel haround
    rw [hvalue, collectionOf, hnode]
    rw [children, hnode] at hchildren
    show Value.map (Entries.mapValues (f.value false k (id :: around)) (Entries.ofList _)) = _
    rw [← Entries.ofList_mapValues, Entries.mapValues, List.map_map, List.map_map]
    refine congrArg (Value.map ∘ Entries.ofList) (List.map_congr_left fun m hm => ?_)
    have hchild : f.parts.getD m.value none = some (partOf g m.value) := by
      refine hchildren m.value (List.mem_flatMap.mpr ⟨m.pair, List.mem_map_of_mem hm, ?_⟩)
      exact List.mem_cons_of_mem _ List.mem_cons_self
    have hvalue := ih m hm hchild (lt_add_of_lt hfuel (hlt m hm).2)
      (forall_lt_of_lt haround (hlt m hm).2)
    exact Prod.ext (leafValue_of_stands (hkeys m hm)) hvalue

theorem getD_replicate_none {α : Type} (n i : Nat) :
    (Array.replicate n (none : Option α)).getD i none = none := by
  rw [Array.getD_eq_getD_getElem?, Array.getElem?_replicate]
  split <;> rfl

theorem sound_start (g : Graph) : Sound g (.ofGraph g) := by
  refine ⟨rfl, Array.size_replicate, fun i p hp => ?_⟩
  cases (getD_replicate_none _ _).symm.trans hp

/-- All collections are filled from the root on. -/
theorem fill_of_stands (hs : Stands g id v) :
    ∃ f, Document.fill ⟨g, id⟩ = .ok (partOf g id, f) ∧ Progress g id [] f ∧ f.found = [] := by
  obtain ⟨f₁, hrun, hvisits⟩ := visit_run (sound_start g) (visitable_of_stands hs)
  have hparts : f₁.parts.getD id none = some (partOf g id) :=
    (hvisits.parts id).trans (if_pos List.mem_cons_self)
  have hempty (i : NodeId) : (ofGraph g).parts.getD i none = none := getD_replicate_none _ i
  have hstart : Progress g id [] f₁ := by
    refine ⟨hvisits.sound, by rw [hvisits.collections]; simp [ofGraph], hparts, fun i c hc => ?_,
      fun i hi hp => ?_⟩
    · rw [hvisits.collections] at hc
      cases (getD_replicate_none _ _).symm.trans hc
    · rw [hvisits.parts] at hp
      split at hp
      · next hmem => exact .inl ((hvisits.found i).mpr (.inr ⟨hmem, hempty i, hi⟩))
      · rw [hempty i] at hp
        cases hp
  obtain ⟨f₂, hrun', hprogress, hdone⟩ := hstart.fillAll (g.nodes.size + 1) fun i hi => by
    rcases (hvisits.found i).mp hi with hmem | ⟨hmem, -, hc⟩
    · cases hmem
    · rw [List.mem_singleton.mp hmem] at hc ⊢
      exact ⟨⟨v, hs⟩, hc, by omega⟩
  refine ⟨f₂, ?_, hprogress, hdone⟩
  show (visit id >>= fun root => Filling.fillAll (g.nodes.size + 1) >>= fun _ => pure root).run
    (ofGraph g) = _
  rw [run_bind_ok hrun, run_bind_ok hrun']
  rfl

end Filling

/-! ## No collection is met again -/

theorem exists_of_bind_eq_ok {α β : Type} {x : Result α} {k : α → Result β} {b : β}
    (h : (x >>= k) = .ok b) : ∃ a, x = .ok a ∧ k a = .ok b := by
  cases x with
  | error e => cases h
  | ok a => exact ⟨a, rfl, h⟩

theorem exists_bool_of_truthValue {text : String} (h : truthValue text = .ok v) :
    ∃ b, v = .bool b := by
  unfold truthValue at h
  dsimp only at h
  split at h
  · exact ⟨true, (Except.ok.inj h).symm⟩
  split at h
  · exact ⟨false, (Except.ok.inj h).symm⟩
  · cases h

theorem exists_int_of_integerValue {text : String} (h : integerValue text = .ok v) :
    ∃ n, v = .int n := by
  obtain ⟨r, -, h⟩ := exists_of_bind_eq_ok h
  obtain ⟨n, -, h⟩ := exists_of_bind_eq_ok h
  exact ⟨_, (Except.ok.inj h).symm⟩

theorem exists_float_of_floatValue {origin : Nat} {text : String}
    (h : floatValue origin text = .ok v) : ∃ n x, v = Value.ofFloat n x := by
  obtain ⟨r, -, h⟩ := exists_of_bind_eq_ok h
  obtain ⟨x, -, h⟩ := exists_of_bind_eq_ok h
  exact ⟨_, _, (Except.ok.inj h).symm⟩

theorem IsLeaf.holdsAgain {tag : Tag} {text : String} (h : IsLeaf tag text v) :
    v.holdsAgain = false := by
  have hvalue := h.2 0 default
  have htag := h.1
  simp only [List.mem_cons, List.not_mem_nil, or_false] at htag
  rcases htag with rfl | rfl | rfl | rfl | rfl
  · cases hvalue
    rfl
  · obtain ⟨b, rfl⟩ := exists_bool_of_truthValue hvalue
    rfl
  · obtain ⟨n, rfl⟩ := exists_int_of_integerValue hvalue
    rfl
  · obtain ⟨n, x, rfl⟩ := exists_float_of_floatValue hvalue
    unfold Value.ofFloat
    split <;> rfl
  · cases hvalue
    rfl

theorem anyAgain_eq_false {vs : List Value} (h : ∀ v ∈ vs, v.holdsAgain = false) :
    Value.anyAgain vs = false := by
  induction vs with
  | nil => rfl
  | cons v vs ih =>
    obtain ⟨hv, hvs⟩ := List.forall_mem_cons.mp h
    rw [Value.anyAgain, hv, ih hvs]
    rfl

theorem anyEntryAgain_eq_false {es : List (Value × Value)} (h : ∀ e ∈ es, e.2.holdsAgain = false) :
    Value.anyEntryAgain es = false := by
  induction es with
  | nil => rfl
  | cons e es ih =>
    obtain ⟨he, hes⟩ := List.forall_mem_cons.mp h
    rw [Value.anyEntryAgain, he, ih hes]
    rfl

theorem forall_values_put {p : Value → Prop} {key : Value} {es : Entries Value Value}
    (hv : p v) (hes : ∀ e ∈ es, p e.2) : ∀ e ∈ Entries.put key v es, p e.2 := by
  induction es with
  | nil => exact List.forall_mem_singleton.mpr hv
  | cons e es ih =>
    obtain ⟨he, hes⟩ := List.forall_mem_cons.mp hes
    unfold Entries.put
    split
    · exact List.forall_mem_cons.mpr ⟨hv, hes⟩
    · exact List.forall_mem_cons.mpr ⟨he, ih hes⟩

/-- The values of a map that is made from a list are among those of the list. -/
theorem forall_values_ofList {p : Value → Prop} {es : List (Value × Value)}
    (h : ∀ e ∈ es, p e.2) : ∀ e ∈ Entries.ofList es, p e.2 := by
  have key : ∀ acc : Entries Value Value, (∀ e ∈ acc, p e.2) →
      ∀ e ∈ es.foldl (fun acc e => Entries.put e.1 e.2 acc) acc, p e.2 := by
    induction es with
    | nil => exact fun _ hacc => hacc
    | cons e es ih =>
      obtain ⟨he, hes⟩ := List.forall_mem_cons.mp h
      exact fun acc hacc => ih hes _ (forall_values_put he hacc)
  exact key [] (List.forall_mem_nil _)

theorem Stands.holdsAgain (h : Stands g id v) : v.holdsAgain = false := by
  induction h with
  | leaf hid hnode hleaf => exact hleaf.holdsAgain
  | list hid hnode hlt hparts ih =>
    refine anyAgain_eq_false fun v hv => ?_
    obtain ⟨e, he, rfl⟩ := List.mem_map.mp hv
    exact ih e he
  | map hid hnode hlt hkeys hparts _ ih =>
    refine anyEntryAgain_eq_false (forall_values_ofList (p := (·.holdsAgain = false)) ?_)
    intro e he
    obtain ⟨m, hm, rfl⟩ := List.mem_map.mp he
    exact ih m hm

/-- The value of the document whose content is a tree with a value. -/
theorem value?_of_stands (hs : Stands g id v) : Document.value? ⟨g, id⟩ = .ok v := by
  obtain ⟨f, hfill, hprogress, hdone⟩ := Filling.fill_of_stands hs
  have hvalue : f.value false (g.nodes.size + 1) [] (Filling.partOf g id) = v :=
    hprogress.value_eq hdone hs hprogress.root (by omega) (by simp)
  rw [Document.value?, hfill]
  show Except.ok (if (f.value false (g.nodes.size + 1) [] (Filling.partOf g id)).holdsAgain
    then _ else f.value false (g.nodes.size + 1) [] (Filling.partOf g id)) = _
  rw [hvalue, hs.holdsAgain]
  rfl

end RemoteBindings.Yaml
