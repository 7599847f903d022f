import RemoteBindings.Proofs.FlowTokens
import RemoteBindings.Proofs.TokensEnd

/-!
# Nodes of JSON text

The tokens of a JSON tree are parsed into nodes that stand for it, with its strings and bare values
read as scalars (`Reading.asScalars`), exactly if every name in the tree is found to be a key
(`parses_tree`). A collection has its number before its parts are read, and nothing changes the
nodes that are there (`Grows`).
-/

namespace RemoteBindings

namespace Json

/-- The demand that every name is found to be a key. -/
def Demands.confirmed : Demands where
  name n := n.isConfirmed = true

/-- Strings in quotes are folded, bare values stand for what they are as plain scalars. -/
def Reading.asScalars : Reading := ⟨Letters.folded, Bare.asPlain⟩

theorem Name.two_le_length_tokens (n : Name) : 2 ≤ n.tokens.length := by
  unfold Name.tokens
  split <;> simp

end Json

namespace Yaml

open Json

/-! ## Results -/

/-- A result that is there exactly under a condition, and then has a property. -/
structure Decides {α : Type} (r : Result α) (ok : Prop) (post : α → Prop) : Prop where
  isOk : ok → ∃ a, r = .ok a ∧ post a
  isError : ¬ ok → ∃ e, r = .error e

section

variable {α : Type} {r : Result α} {ok ok' : Prop} {post : α → Prop}

theorem Decides.bind {β : Type} {k : α → Result β} {post' : β → Prop} (h : Decides r ok post)
    (h' : ∀ a, post a → Decides (k a) ok' post') : Decides (r >>= k) (ok ∧ ok') post' := by
  refine ⟨fun ⟨hok, hok'⟩ => ?_, fun hnot => ?_⟩
  · obtain ⟨a, rfl, ha⟩ := h.isOk hok
    exact (h' a ha).isOk hok'
  · by_cases hok : ok
    · obtain ⟨a, rfl, ha⟩ := h.isOk hok
      exact (h' a ha).isError fun hok' => hnot ⟨hok, hok'⟩
    · obtain ⟨e, rfl⟩ := h.isError hok
      exact ⟨e, rfl⟩

theorem Decides.map {β : Type} {g : α → β} {post' : β → Prop} (h : Decides r ok post)
    (h' : ∀ a, post a → post' (g a)) : Decides (r.map g) ok post' := by
  refine ⟨fun hok => ?_, fun hnot => ?_⟩
  · obtain ⟨a, rfl, ha⟩ := h.isOk hok
    exact ⟨g a, rfl, h' a ha⟩
  · obtain ⟨e, rfl⟩ := h.isError hnot
    exact ⟨e, rfl⟩

theorem Decides.map_map {β γ : Type} {g : α → β} {k : β → γ} {post' : γ → Prop}
    (h : Decides r ok post) (h' : ∀ a, post a → post' (k (g a))) :
    Decides ((r.map g).map k) ok post' := by
  have hmap : (r.map g).map k = r.map fun a => k (g a) := by cases r <;> rfl
  rw [hmap]
  exact h.map h'

theorem Decides.imp {post' : α → Prop} (h : Decides r ok post) (hok : ok' ↔ ok)
    (hpost : ∀ a, post a → post' a) : Decides r ok' post' :=
  ⟨fun h' => (h.isOk (hok.mp h')).imp fun _ ⟨hr, ha⟩ => ⟨hr, hpost _ ha⟩,
    fun h' => h.isError (mt hok.mpr h')⟩

theorem decides_ok {a : α} (h : post a) : Decides (.ok a) True post :=
  ⟨fun _ => ⟨a, rfl, h⟩, fun hnot => absurd trivial hnot⟩

/-- The first of two steps always succeeds. -/
theorem Decides.bind_of_true {β : Type} {k : α → Result β} {post' : β → Prop}
    (h : Decides r True post) (h' : ∀ a, post a → Decides (k a) ok post') :
    Decides (r >>= k) ok post' :=
  (h.bind h').imp (and_iff_right trivial).symm fun _ => id

/-- The second of two steps always succeeds. -/
theorem Decides.bind_true {β : Type} {k : α → Result β} {post' : β → Prop}
    (h : Decides r ok post) (h' : ∀ a, post a → Decides (k a) True post') :
    Decides (r >>= k) ok post' :=
  (h.bind h').imp (and_iff_left trivial).symm fun _ => id

end

/-! ## Nodes so far -/

/-- The tokens that are left. -/
def Feed.tokens (f : Feed) : List Token := f.lexemes.map Lexeme.token

variable {f f' f'' : Feed} {toks : List Token} {id c : NodeId} {n : Node} {v : Value}

/-- New nodes are added to the ones that are there. -/
structure Grows (f f' : Feed) : Prop where
  ending : f'.ending = f.ending
  size : f.graph.nodes.size ≤ f'.graph.nodes.size
  node : ∀ i < f.graph.nodes.size, f'.graph.node i = f.graph.node i

theorem Grows.refl (f : Feed) : Grows f f := ⟨rfl, Nat.le_refl _, fun _ _ => rfl⟩

theorem Grows.trans (h : Grows f f') (h' : Grows f' f'') : Grows f f'' :=
  ⟨h'.ending.trans h.ending, Nat.le_trans h.size h'.size, fun i hi =>
    (h'.node i (Nat.lt_of_lt_of_le hi h.size)).trans (h.node i hi)⟩

theorem Grows.drop (h : Grows f.drop f') : Grows f f' := ⟨h.ending, h.size, h.node⟩

theorem grows_addEmpty (f : Feed) (start : Mark) : Grows f (f.addEmpty start).2 := by
  refine ⟨rfl, ?_, fun i hi => ?_⟩
  · simp [Feed.addEmpty, Feed.add, Graph.add]
  · simp [Feed.addEmpty, Feed.add, Graph.add, Graph.node, Array.getElem?_push, Nat.ne_of_lt hi]

theorem Grows.stands (h : Grows f f') (hs : Stands f.graph c v) : Stands f'.graph c v :=
  hs.congr h.size fun i _ hi => h.node i hi

theorem node_define (f : Feed) (hid : id < f.graph.nodes.size) (i : NodeId) :
    (f.define id n).graph.node i = if i = id then n else f.graph.node i := by
  by_cases hi : i = id
  · subst hi
    simp [Feed.define, Graph.put, Graph.node, hid]
  · simp [Feed.define, Graph.put, Graph.node, hi, Ne.symm hi]

theorem size_define (f : Feed) : (f.define id n).graph.nodes.size = f.graph.nodes.size := by
  simp [Feed.define, Graph.put]

theorem stands_define (hid : id < f.graph.nodes.size) (hs : Stands f.graph c v) (hlt : id < c) :
    Stands (f.define id n).graph c v := by
  refine hs.congr (Nat.le_of_eq (size_define f).symm) fun i hi _ => ?_
  rw [node_define f hid, if_neg (Nat.ne_of_gt (Nat.lt_of_lt_of_le hlt hi))]

/-- A node is put in the place that was kept for it. -/
theorem grows_define {start : Mark} (h : Grows (f.addEmpty start).2 f') :
    Grows f (f'.define f.graph.nodes.size n) ∧
      f.graph.nodes.size < f'.graph.nodes.size := by
  have hlt : f.graph.nodes.size < f'.graph.nodes.size := by
    refine Nat.lt_of_lt_of_le ?_ h.size
    simp [Feed.addEmpty, Feed.add, Graph.add]
  refine ⟨⟨h.ending, ?_, fun i hi => ?_⟩, hlt⟩
  · rw [size_define]
    exact Nat.le_of_lt hlt
  · rw [node_define f' hlt, if_neg (Nat.ne_of_lt hi)]
    exact ((grows_addEmpty f start).trans h).node i hi

/-! ## Results of the parser -/

/-- A node with a value has been read. -/
structure NodeRead (f : Feed) (toks : List Token) (v : Value) (r : NodeId × Feed) : Prop where
  tokens : r.2.tokens = toks
  grows : Grows f r.2
  le : f.graph.nodes.size ≤ r.1
  stands : Stands r.2.graph r.1 v

structure ItemsRead (f : Feed) (toks : List Token) (vs : List Value) (r : List NodeId × Feed) :
    Prop where
  tokens : r.2.tokens = toks
  grows : Grows f r.2
  parts : ∃ parts : List (NodeId × Value), parts.map Prod.fst = r.1 ∧ parts.map Prod.snd = vs ∧
    (∀ e ∈ parts, f.graph.nodes.size ≤ e.1) ∧ ∀ e ∈ parts, Stands r.2.graph e.1 e.2

structure MembersRead (f : Feed) (toks : List Token) (es : List (Value × Value))
    (r : List Pair × Feed) : Prop where
  tokens : r.2.tokens = toks
  grows : Grows f r.2
  members : ∃ members : List Member, members.map Member.pair = r.1 ∧
    members.map Member.entry = es ∧
    (∀ m ∈ members, f.graph.nodes.size ≤ m.key ∧ f.graph.nodes.size ≤ m.value) ∧
    (∀ m ∈ members, Stands r.2.graph m.key (.text m.name)) ∧
    ∀ m ∈ members, Stands r.2.graph m.value m.content

/-- A token with which the text of a tree begins. -/
def BeginsNode : Token → Prop
  | .scalar _ _ | .flowSequenceStart | .flowMappingStart => True
  | _ => False

theorem exists_tokens_eq (t : Tree) : ∃ tok rest, t.tokens = tok :: rest ∧ BeginsNode tok := by
  cases t <;> exact ⟨_, _, rfl, trivial⟩

variable {handles : Handles} {place : Place} {start : Mark} {fuel : Nat} {tok : Token}

theorem exists_lexeme (h : f.tokens = tok :: toks) :
    ∃ l ls, f.lexemes = l :: ls ∧ l.token = tok ∧ f.drop.tokens = toks := by
  cases hl : f.lexemes with
  | nil => simp [Feed.tokens, hl] at h
  | cons l ls =>
    rw [Feed.tokens, hl, List.map_cons] at h
    obtain ⟨htok, htoks⟩ := List.cons.inj h
    refine ⟨l, ls, rfl, htok, ?_⟩
    show (f.lexemes.drop 1).map Lexeme.token = toks
    rw [hl]
    exact htoks

theorem nextIs_eq (h : f.tokens = tok :: toks) (p : Token → Bool) : f.nextIs p = p tok := by
  obtain ⟨l, ls, hl, rfl, -⟩ := exists_lexeme h
  rw [Lexemes.nextIs, hl]

theorem parseNode_eq {behind stop : Mark} {ls : List Lexeme}
    (hl : f.lexemes = ⟨tok, behind, stop⟩ :: ls) (hb : BeginsNode tok) :
    parseNode handles place (fuel + 1) f = (do
      let (_, start) ← f.next
      let (properties, f) ← takeProperties f
      let name ← properties.tagName? handles start
      f.demand
      let (id, f) ← f.openNode properties.anchor start
      let (n, f) ← parseContent handles place ⟨properties, name, start⟩ fuel f
      return (id, f.define id n)) := by
  cases tok <;> first | exact hb.elim | simp only [parseNode, hl]

/-- A node is read into the next place. -/
theorem exists_parseNode_eq (handles : Handles) (place : Place) (fuel : Nat)
    (h : f.tokens = tok :: toks) (hb : BeginsNode tok) :
    ∃ start, parseNode handles place (fuel + 1) f =
      (parseContent handles place ⟨{}, none, start⟩ fuel (f.addEmpty start).2).map fun r =>
        (f.graph.nodes.size, r.2.define f.graph.nodes.size r.1) := by
  obtain ⟨⟨tok', place', stop⟩, ls, hl, rfl, -⟩ := exists_lexeme h
  refine ⟨place', ?_⟩
  have hnext : f.next = .ok (some tok', place') := by rw [Lexemes.next, hl]
  have hdemand : f.demand = .ok () := by rw [Lexemes.demand, hnext]; rfl
  have hproperties : takeProperties f = .ok ({}, f) := by
    cases tok' <;> first | exact hb.elim | simp only [takeProperties, hl]
  rw [parseNode_eq hl hb, hnext]
  show (takeProperties f >>= _) = _
  rw [hproperties]
  show (f.demand >>= _) = _
  rw [hdemand]
  show (parseContent handles place ⟨{}, none, place'⟩ fuel (f.addEmpty place').2 >>= _) = _
  cases parseContent handles place ⟨{}, none, place'⟩ fuel (f.addEmpty place').2 <;> rfl

/-- The content that has been read is put in the place that was kept for it. -/
theorem nodeRead_define (hgrows : Grows (f.addEmpty start).2 f') (htoks : f'.tokens = toks)
    (hs : ∀ g : Graph, f.graph.nodes.size < g.nodes.size → g.node f.graph.nodes.size = n →
      (∀ {c u}, Stands f'.graph c u → f.graph.nodes.size < c → Stands g c u) →
        Stands g f.graph.nodes.size v) :
    NodeRead f toks v (f.graph.nodes.size, f'.define f.graph.nodes.size n) := by
  obtain ⟨hgrows, hlt⟩ := grows_define (n := n) hgrows
  refine ⟨htoks, hgrows, Nat.le_refl _, hs _ ?_ ?_ fun hstands => stands_define hlt hstands⟩
  · rw [size_define]
    exact hlt
  · exact (node_define f' hlt _).trans (if_pos rfl)

theorem size_addEmpty (f : Feed) (start : Mark) :
    (f.addEmpty start).2.graph.nodes.size = f.graph.nodes.size + 1 := by
  simp [Feed.addEmpty, Feed.add, Graph.add]

theorem parses_scalar {text : String} {isPlain : Bool} (h : f.tokens = .scalar text isPlain :: toks)
    (hleaf : IsLeaf (scalarTag none text isPlain) text v) :
    Decides (parseNode handles place (fuel + 2) f) True (NodeRead f toks v) := by
  obtain ⟨start, hnode⟩ := exists_parseNode_eq handles place (fuel + 1) h trivial
  obtain ⟨⟨tok, behind, stop⟩, ls, hl, rfl, htoks⟩ := exists_lexeme h
  have hl' : (f.addEmpty start).2.lexemes = ⟨.scalar text isPlain, behind, stop⟩ :: ls := hl
  have hcontent : parseContent handles place ⟨{}, none, start⟩ (fuel + 1) (f.addEmpty start).2 =
      .ok (⟨scalarTag none text isPlain, .scalar text, start⟩, (f.addEmpty start).2.drop) := by
    simp only [parseContent, hl']
  rw [hnode, hcontent]
  refine decides_ok (nodeRead_define (Grows.drop (Grows.refl _)) htoks ?_)
  exact fun g hlt hn _ => .leaf hlt hn hleaf

theorem scalarTag_plain (text : String) : scalarTag none text true = Tag.ofPlain text := by
  simp only [scalarTag, if_true]

theorem parses_sequence {ok : Prop} {vs : List Value} {toks' : List Token}
    (h : f.tokens = .flowSequenceStart :: toks) (hread : ∀ start (f₁ : Feed), f₁.tokens = toks →
      Decides (parseFlowSequence handles start true fuel f₁) ok (ItemsRead f₁ toks' vs)) :
    Decides (parseNode handles place (fuel + 2) f) ok (NodeRead f toks' (.list vs)) := by
  obtain ⟨start, hnode⟩ := exists_parseNode_eq handles place (fuel + 1) h trivial
  obtain ⟨⟨tok, behind, stop⟩, ls, hl, rfl, htoks⟩ := exists_lexeme h
  have hl' : (f.addEmpty start).2.lexemes = ⟨.flowSequenceStart, behind, stop⟩ :: ls := hl
  have hcontent : parseContent handles place ⟨{}, none, start⟩ (fuel + 1) (f.addEmpty start).2 =
      (parseFlowSequence handles behind true fuel (f.addEmpty start).2.drop).map
        (sequenceNode ⟨{}, none, start⟩) := by
    simp only [parseContent, hl']
  rw [hnode, hcontent]
  refine (hread behind (f.addEmpty start).2.drop htoks).map_map fun r hr => ?_
  obtain ⟨parts, hids, rfl, hle, hparts⟩ := hr.parts
  have hlt {e : NodeId × Value} (he : e ∈ parts) : f.graph.nodes.size < e.1 := by
    have hle : (f.addEmpty start).2.graph.nodes.size ≤ e.1 := hle e he
    rw [size_addEmpty] at hle
    exact hle
  refine nodeRead_define hr.grows.drop hr.tokens fun g hg hn hkeep => ?_
  have hn' : g.node f.graph.nodes.size = ⟨.seq, .sequence (parts.map Prod.fst), start⟩ := by
    rw [hn, hids]
    rfl
  exact .list hg hn' (fun e he => hlt he) fun e he => hkeep (hparts e he) (hlt he)

theorem parses_mapping {ok : Prop} {es : List (Value × Value)} {toks' : List Token}
    (h : f.tokens = .flowMappingStart :: toks) (hread : ∀ start (f₁ : Feed), f₁.tokens = toks →
      Decides (parseFlowMapping handles start true fuel f₁) ok (MembersRead f₁ toks' es)) :
    Decides (parseNode handles place (fuel + 2) f) ok
      (NodeRead f toks' (Value.mapOfList es)) := by
  obtain ⟨start, hnode⟩ := exists_parseNode_eq handles place (fuel + 1) h trivial
  obtain ⟨⟨tok, behind, stop⟩, ls, hl, rfl, htoks⟩ := exists_lexeme h
  have hl' : (f.addEmpty start).2.lexemes = ⟨.flowMappingStart, behind, stop⟩ :: ls := hl
  have hcontent : parseContent handles place ⟨{}, none, start⟩ (fuel + 1) (f.addEmpty start).2 =
      (parseFlowMapping handles behind true fuel (f.addEmpty start).2.drop).map
        (mappingNode ⟨{}, none, start⟩) := by
    simp only [parseContent, hl']
  rw [hnode, hcontent]
  refine (hread behind (f.addEmpty start).2.drop htoks).map_map fun r hr => ?_
  obtain ⟨members, hpairs, rfl, hle, hkeys, hvalues⟩ := hr.members
  have hlt {m : Member} (hm : m ∈ members) :
      f.graph.nodes.size < m.key ∧ f.graph.nodes.size < m.value := by
    have hle : (f.addEmpty start).2.graph.nodes.size ≤ m.key ∧
      (f.addEmpty start).2.graph.nodes.size ≤ m.value := hle m hm
    rw [size_addEmpty] at hle
    exact hle
  refine nodeRead_define hr.grows.drop hr.tokens fun g hg hn hkeep => ?_
  have hn' : g.node f.graph.nodes.size = ⟨.map, .mapping (members.map Member.pair), start⟩ := by
    rw [hn, hpairs]
    rfl
  exact .map hg hn' (fun m hm => hlt hm) (fun m hm => hkeep (hkeys m hm) (hlt hm).1)
    fun m hm => hkeep (hvalues m hm) (hlt hm).2

/-! ## The ends of collections -/

theorem parseFlowSequence_end (h : f.tokens = .flowSequenceEnd :: toks) (isFirst : Bool) :
    parseFlowSequence handles start isFirst (fuel + 1) f = .ok ([], f.drop) := by
  rw [parseFlowSequence, nextIs_eq h]
  rfl

theorem parseFlowMapping_end (h : f.tokens = .flowMappingEnd :: toks) (isFirst : Bool) :
    parseFlowMapping handles start isFirst (fuel + 1) f = .ok ([], f.drop) := by
  rw [parseFlowMapping, nextIs_eq h]
  rfl

theorem drop_tokens (h : f.tokens = tok :: toks) : f.drop.tokens = toks := by
  obtain ⟨l, ls, -, -, htoks⟩ := exists_lexeme h
  exact htoks

theorem itemsRead_end (h : f.tokens = .flowSequenceEnd :: toks) :
    ItemsRead f toks [] ([], f.drop) :=
  ⟨drop_tokens h, Grows.drop (Grows.refl _), [], rfl, rfl, by simp, by simp⟩

theorem membersRead_end (h : f.tokens = .flowMappingEnd :: toks) :
    MembersRead f toks [] ([], f.drop) :=
  ⟨drop_tokens h, Grows.drop (Grows.refl _), [], rfl, rfl, by simp, by simp, by simp⟩

theorem NodeRead.drop {r : NodeId × Feed} (h : NodeRead f.drop toks v r) : NodeRead f toks v r :=
  ⟨h.tokens, h.grows.drop, h.le, h.stands⟩

theorem ItemsRead.drop {vs : List Value} {r : List NodeId × Feed}
    (h : ItemsRead f.drop toks vs r) : ItemsRead f toks vs r := ⟨h.tokens, h.grows.drop, h.parts⟩

theorem MembersRead.drop {es : List (Value × Value)} {r : List Pair × Feed}
    (h : MembersRead f.drop toks es r) : MembersRead f toks es r :=
  ⟨h.tokens, h.grows.drop, h.members⟩

/-! ## Items and members -/

theorem itemsRead_cons {toks' : List Token} {vs : List Value} {r : NodeId × Feed}
    {r' : List NodeId × Feed} (h : NodeRead f toks v r) (h' : ItemsRead r.2 toks' vs r') :
    ItemsRead f toks' (v :: vs) (r.1 :: r'.1, r'.2) := by
  obtain ⟨parts, hids, hvs, hle, hparts⟩ := h'.parts
  refine ⟨h'.tokens, h.grows.trans h'.grows, (r.1, v) :: parts, by rw [List.map_cons, hids],
    by rw [List.map_cons, hvs], ?_, ?_⟩
  · exact List.forall_mem_cons.mpr ⟨h.le, fun e he => Nat.le_trans h.grows.size (hle e he)⟩
  · exact List.forall_mem_cons.mpr ⟨h'.grows.stands h.stands, hparts⟩

theorem membersRead_cons {s : String} {toks' toks'' : List Token} {es : List (Value × Value)}
    {r r' : NodeId × Feed} {r'' : List Pair × Feed} (h : NodeRead f toks (.text s) r)
    (h' : NodeRead r.2 toks' v r') (h'' : MembersRead r'.2 toks'' es r'') :
    MembersRead f toks'' ((.text s, v) :: es) ((r.1, r'.1) :: r''.1, r''.2) := by
  obtain ⟨members, hpairs, hentries, hle, hkeys, hvalues⟩ := h''.members
  have hgrows := h.grows.trans h'.grows
  refine ⟨h''.tokens, hgrows.trans h''.grows, ⟨r.1, s, r'.1, v⟩ :: members,
    by rw [List.map_cons, hpairs]; rfl, by rw [List.map_cons, hentries]; rfl, ?_, ?_, ?_⟩
  · refine List.forall_mem_cons.mpr ⟨⟨h.le, Nat.le_trans h.grows.size h'.le⟩, fun m hm => ?_⟩
    exact ⟨Nat.le_trans hgrows.size (hle m hm).1, Nat.le_trans hgrows.size (hle m hm).2⟩
  · exact List.forall_mem_cons.mpr ⟨(h'.grows.trans h''.grows).stands h.stands, hkeys⟩
  · exact List.forall_mem_cons.mpr ⟨h''.grows.stands h'.stands, hvalues⟩

theorem parseFlowItem_eq {behind stop : Mark} {ls : List Lexeme}
    (hl : f.lexemes = ⟨tok, behind, stop⟩ :: ls) (hb : BeginsNode tok) :
    parseFlowItem handles start (fuel + 1) f = (do
      let (n, f) ← parseNode handles .flow fuel f
      let (items, f) ← parseFlowSequence handles start false fuel f
      return (n :: items, f)) := by
  cases tok <;> first | exact hb.elim | simp only [parseFlowItem, hl]

theorem parses_item {t : Tree} {ok ok' : Prop} {toks' toks'' : List Token} {vs : List Value}
    (h : f.tokens = t.tokens ++ toks)
    (hitem : Decides (parseNode handles .flow fuel f) ok (NodeRead f toks' v))
    (hrest : ∀ f₁ : Feed, f₁.tokens = toks' →
      Decides (parseFlowSequence handles start false fuel f₁) ok' (ItemsRead f₁ toks'' vs)) :
    Decides (parseFlowItem handles start (fuel + 1) f) (ok ∧ ok')
      (ItemsRead f toks'' (v :: vs)) := by
  obtain ⟨tok, rest, htoks, hb⟩ := exists_tokens_eq t
  rw [htoks, List.cons_append] at h
  obtain ⟨⟨tok, behind, stop⟩, ls, hl, rfl, -⟩ := exists_lexeme h
  rw [parseFlowItem_eq hl hb]
  refine hitem.bind fun r hr => ?_
  exact (hrest r.2 hr.tokens).bind_true fun r' hr' => decides_ok (itemsRead_cons hr hr')

theorem parseUnless_eq {behind : Mark} {p : Token → Bool} (h : f.tokens = tok :: toks)
    (hp : p tok = false) :
    parseUnless handles place behind p (fuel + 1) f = parseNode handles place fuel f := by
  rw [parseUnless, nextIs_eq h, hp]
  rfl

theorem parseValue_eq (h : f.tokens = .value :: tok :: toks) (hb : BeginsNode tok) :
    parseValue handles .flow endsFlowEntry (fuel + 2) f = parseNode handles .flow fuel f.drop := by
  obtain ⟨⟨_, place, behind⟩, ls, hl, rfl, htoks⟩ := exists_lexeme h
  have hends : endsFlowEntry tok = false := by
    cases tok <;> first | exact hb.elim | rfl
  simp only [parseValue, hl]
  exact parseUnless_eq htoks hends

theorem parseFlowPair_key {behind stop : Mark} {ls : List Lexeme}
    (hl : f.lexemes = ⟨.key, behind, stop⟩ :: ls) :
    parseFlowPair handles start (fuel + 1) f = (do
      let (k, f) ← parseUnless handles .flow stop (fun t => isValue t || endsFlowEntry t) fuel f.drop
      let (v, f) ← parseValue handles .flow endsFlowEntry fuel f
      let (es, f) ← parseFlowMapping handles start false fuel f
      return ((k, v) :: es, f)) := by
  simp only [parseFlowPair, hl]

theorem parseFlowPair_scalar {s : String} {behind stop : Mark} {ls : List Lexeme}
    (hl : f.lexemes = ⟨.scalar s false, behind, stop⟩ :: ls) :
    parseFlowPair handles start (fuel + 1) f = (do
      let (k, f) ← parseNode handles .flow fuel f
      let (_, behind) ← f.next
      let (v, f) := f.addEmpty behind
      let (es, f) ← parseFlowMapping handles start false fuel f
      return ((k, v) :: es, f)) := by
  simp only [parseFlowPair, hl]

theorem parses_pair {s : String} {t : Tree} {ok ok' : Prop} {toks' toks'' : List Token}
    {es : List (Value × Value)}
    (h : f.tokens = .key :: .scalar s false :: .value :: (t.tokens ++ toks))
    (hvalue : ∀ f₁ : Feed, f₁.tokens = t.tokens ++ toks →
      Decides (parseNode handles .flow (fuel + 1) f₁) ok (NodeRead f₁ toks' v))
    (hrest : ∀ f₁ : Feed, f₁.tokens = toks' →
      Decides (parseFlowMapping handles start false (fuel + 3) f₁) ok' (MembersRead f₁ toks'' es)) :
    Decides (parseFlowPair handles start (fuel + 4) f) (ok ∧ ok')
      (MembersRead f toks'' ((.text s, v) :: es)) := by
  obtain ⟨⟨_, place, behind⟩, ls, hl, rfl, htoks⟩ := exists_lexeme h
  obtain ⟨tok, rest, htree, hb⟩ := exists_tokens_eq t
  rw [parseFlowPair_key hl, parseUnless_eq htoks rfl]
  refine (parses_scalar (v := .text s) htoks (isLeaf_str s)).bind_of_true ?_
  rintro ⟨k, f₁⟩ hr
  dsimp only
  have hvalued : f₁.tokens = .value :: tok :: (rest ++ toks) := by
    rw [hr.tokens, htree, List.cons_append]
  rw [parseValue_eq hvalued hb]
  refine (hvalue f₁.drop (drop_tokens hr.tokens)).bind fun r' hr' => ?_
  exact (hrest r'.2 hr'.tokens).bind_true fun r'' hr'' =>
    decides_ok (membersRead_cons hr.drop hr'.drop hr'')

/-- A name that is no key ends the reading at its colon. -/
theorem parses_unconfirmed {s : String} (h : f.tokens = .scalar s false :: .value :: toks) :
    ∃ e, parseFlowPair handles start (fuel + 3) f = .error e := by
  obtain ⟨⟨_, place, behind⟩, ls, hl, rfl, htoks⟩ := exists_lexeme h
  have hscalar : Decides (parseNode handles .flow (fuel + 2) f) True
      (NodeRead f (.value :: toks) (.text s)) :=
    parses_scalar h (isLeaf_str s)
  obtain ⟨r, hr, hread⟩ := hscalar.isOk trivial
  obtain ⟨⟨_, place, stop⟩, ls', hl', rfl, -⟩ := exists_lexeme hread.tokens
  have hnext : r.2.next = .ok (some .value, place) := by rw [Lexemes.next, hl']
  have hvalue : (r.2.addEmpty place).2.tokens = .value :: toks := hread.tokens
  have hmapping : parseFlowMapping handles start false (fuel + 2) (r.2.addEmpty place).2 =
      (r.2.addEmpty place).2.expects (.reading .parsing .flowMapping start) (.commaOr '\x7d') := by
    rw [parseFlowMapping, nextIs_eq hvalue, nextIs_eq hvalue]
    rfl
  have hexpects : ∃ e, parseFlowMapping handles start false (fuel + 2) (r.2.addEmpty place).2 =
      .error e := by
    rw [hmapping, Lexemes.expects, show (r.2.addEmpty place).2.next = .ok (some .value, place)
      from hnext]
    exact ⟨_, rfl⟩
  obtain ⟨e, he⟩ := hexpects
  refine ⟨e, ?_⟩
  rw [parseFlowPair_scalar hl, hr]
  show (r.2.next >>= _) = _
  rw [hnext]
  show (parseFlowMapping handles start false (fuel + 2) (r.2.addEmpty place).2 >>= _) = _
  rw [he]
  rfl

theorem exists_items_tokens (items : Items) :
    ∃ tok rest, items.tokens = tok :: rest ∧ BeginsNode tok := by
  cases items with
  | last _ t _ => exact exists_tokens_eq t
  | more _ t _ rest =>
    obtain ⟨tok, toks, htoks, hb⟩ := exists_tokens_eq t
    exact ⟨tok, _, by rw [Items.tokens, htoks]; rfl, hb⟩

theorem exists_members_tokens (members : Members) :
    ∃ tok rest, members.tokens = tok :: rest ∧ (tok == .flowMappingEnd) = false := by
  have hname (n : Name) (toks : List Token) :
      ∃ tok rest, n.tokens ++ toks = tok :: rest ∧ (tok == .flowMappingEnd) = false := by
    unfold Name.tokens
    split <;> exact ⟨_, _, rfl, rfl⟩
  cases members with
  | last n t _ => exact hname n t.tokens
  | more n t _ rest =>
    rw [Members.tokens, List.append_assoc]
    exact hname n _

theorem parseFlowSequence_first (items : Items) (h : f.tokens = items.tokens ++ toks) :
    parseFlowSequence handles start true (fuel + 1) f = parseFlowItem handles start fuel f := by
  obtain ⟨tok, rest, htoks, hb⟩ := exists_items_tokens items
  rw [htoks, List.cons_append] at h
  have hne : (tok == .flowSequenceEnd) = false := by
    cases tok <;> first | exact hb.elim | rfl
  rw [parseFlowSequence, nextIs_eq h, hne]
  rfl

theorem parseFlowMapping_first (members : Members) (h : f.tokens = members.tokens ++ toks) :
    parseFlowMapping handles start true (fuel + 1) f = parseFlowPair handles start fuel f := by
  obtain ⟨tok, rest, htoks, hne⟩ := exists_members_tokens members
  rw [htoks, List.cons_append] at h
  rw [parseFlowMapping, nextIs_eq h, hne]
  rfl

theorem parseFlowSequence_comma (h : f.tokens = .flowComma :: toks) :
    parseFlowSequence handles start false (fuel + 1) f =
      parseFlowItem handles start fuel f.drop := by
  rw [parseFlowSequence, nextIs_eq h, nextIs_eq h]
  rfl

theorem parseFlowMapping_comma (h : f.tokens = .flowComma :: toks) :
    parseFlowMapping handles start false (fuel + 1) f =
      parseFlowPair handles start fuel f.drop := by
  rw [parseFlowMapping, nextIs_eq h, nextIs_eq h]
  rfl

/-- A member is parsed if its name is a key. -/
theorem parses_member {n : Name} {t : Tree} {ok ok' : Prop} {toks' toks'' : List Token}
    {es : List (Value × Value)} (h : f.tokens = n.tokens ++ (t.tokens ++ toks))
    (hvalue : n.isConfirmed = true → ∀ f₁ : Feed, f₁.tokens = t.tokens ++ toks →
      Decides (parseNode handles .flow (fuel + 1) f₁) ok (NodeRead f₁ toks' v))
    (hrest : ∀ f₁ : Feed, f₁.tokens = toks' →
      Decides (parseFlowMapping handles start false (fuel + 3) f₁) ok' (MembersRead f₁ toks'' es)) :
    Decides (parseFlowPair handles start (fuel + 4) f) (n.isConfirmed = true ∧ ok ∧ ok')
      (MembersRead f toks'' ((.text n.letters.folded, v) :: es)) := by
  by_cases hn : n.isConfirmed = true
  · rw [Name.tokens, if_pos hn] at h
    exact (parses_pair h (hvalue hn) hrest).imp (and_iff_right hn) fun _ => id
  · rw [Name.tokens, if_neg hn] at h
    exact ⟨fun hok => absurd hok.1 hn, fun _ => parses_unconfirmed h⟩

theorem confirmed_lastMember (n : Name) (t : Tree) (after : Gap) :
    (Members.last n t after).Each .confirmed ↔
      n.isConfirmed = true ∧ t.Each .confirmed ∧ True := by
  simp [Members.Each, Name.Each, Demands.confirmed]

theorem confirmed_moreMembers (n : Name) (t : Tree) (after : Gap) (rest : Members) :
    (Members.more n t after rest).Each .confirmed ↔
      n.isConfirmed = true ∧ t.Each .confirmed ∧ rest.Each .confirmed := by
  simp [Members.Each, Name.Each, Demands.confirmed]

theorem confirmed_last (before : Gap) (t : Tree) (after : Gap) :
    (Items.last before t after).Each .confirmed ↔ t.Each .confirmed ∧ True := by
  simp [Items.Each, Demands.confirmed]

theorem confirmed_more (before : Gap) (t : Tree) (after : Gap) (rest : Items) :
    (Items.more before t after rest).Each .confirmed ↔
      t.Each .confirmed ∧ rest.Each .confirmed := by
  simp [Items.Each, Demands.confirmed]

mutual

/-- The tokens of a tree are parsed exactly if every name in it is a key. -/
theorem parses_tree (t : Tree) {handles : Handles} {place : Place} {fuel : Nat} {f : Feed}
    {toks : List Token} (hfuel : 2 * t.tokens.length + 2 ≤ fuel)
    (h : f.tokens = t.tokens ++ toks) :
    Decides (parseNode handles place fuel f) (t.Each .confirmed)
      (NodeRead f toks (t.read .asScalars)) := by
  cases t with
  | string ls =>
    obtain ⟨fuel, rfl⟩ : ∃ k, fuel = k + 2 := ⟨fuel - 2, by omega⟩
    exact parses_scalar h (isLeaf_str _)
  | bare b =>
    obtain ⟨fuel, rfl⟩ : ∃ k, fuel = k + 2 := ⟨fuel - 2, by omega⟩
    have hleaf : IsLeaf (scalarTag none (String.ofList b.chars) true) (String.ofList b.chars)
        b.asPlain := by
      rw [scalarTag_plain]
      exact isLeaf_bare b
    exact parses_scalar h hleaf
  | emptyList g =>
    have hlength : (Tree.emptyList g).tokens.length = 2 := rfl
    obtain ⟨fuel, rfl⟩ : ∃ k, fuel = k + 3 := ⟨fuel - 3, by omega⟩
    refine parses_sequence h fun start f₁ hf₁ => ?_
    rw [parseFlowSequence_end hf₁ true]
    exact decides_ok (itemsRead_end hf₁)
  | list items =>
    have hlength : (Tree.list items).tokens.length = items.tokens.length + 2 := by
      simp [Tree.tokens]
    obtain ⟨fuel, rfl⟩ : ∃ k, fuel = k + 3 := ⟨fuel - 3, by omega⟩
    have h' : f.tokens = .flowSequenceStart :: (items.tokens ++ .flowSequenceEnd :: toks) := by
      rw [h, Tree.tokens]
      simp
    refine parses_sequence h' fun start f₁ hf₁ => ?_
    rw [parseFlowSequence_first items hf₁]
    exact parses_items items (by omega) hf₁
  | emptyObject g =>
    have hlength : (Tree.emptyObject g).tokens.length = 2 := rfl
    obtain ⟨fuel, rfl⟩ : ∃ k, fuel = k + 3 := ⟨fuel - 3, by omega⟩
    have hread : Decides (parseNode handles place (fuel + 3) f) True
        (NodeRead f toks (Value.mapOfList [])) := by
      refine parses_mapping h fun start f₁ hf₁ => ?_
      rw [parseFlowMapping_end hf₁ true]
      exact decides_ok (membersRead_end hf₁)
    exact hread
  | object members =>
    have hlength : (Tree.object members).tokens.length = members.tokens.length + 2 := by
      simp [Tree.tokens]
    obtain ⟨fuel, rfl⟩ : ∃ k, fuel = k + 3 := ⟨fuel - 3, by omega⟩
    have h' : f.tokens = .flowMappingStart :: (members.tokens ++ .flowMappingEnd :: toks) := by
      rw [h, Tree.tokens]
      simp
    refine parses_mapping h' fun start f₁ hf₁ => ?_
    rw [parseFlowMapping_first members hf₁]
    exact parses_members members (by omega) hf₁

theorem parses_items (items : Items) {handles : Handles} {start : Mark} {fuel : Nat} {f : Feed}
    {toks : List Token} (hfuel : 2 * items.tokens.length + 3 ≤ fuel)
    (h : f.tokens = items.tokens ++ .flowSequenceEnd :: toks) :
    Decides (parseFlowItem handles start fuel f) (items.Each .confirmed)
      (ItemsRead f toks (items.read .asScalars)) := by
  obtain ⟨fuel, rfl⟩ : ∃ k, fuel = k + 3 := ⟨fuel - 3, by omega⟩
  cases items with
  | last before t after =>
    have hlength : (Items.last before t after).tokens.length = t.tokens.length := rfl
    refine Decides.imp (parses_item h (parses_tree t (by omega) h) fun f₁ hf₁ => ?_)
      (confirmed_last before t after) fun _ => id
    rw [parseFlowSequence_end hf₁ false]
    exact decides_ok (itemsRead_end hf₁)
  | more before t after rest =>
    have hlength : (Items.more before t after rest).tokens.length =
        t.tokens.length + rest.tokens.length + 1 := by
      simp [Items.tokens, Nat.add_assoc]
    have h' : f.tokens = t.tokens ++ .flowComma :: (rest.tokens ++ .flowSequenceEnd :: toks) := by
      rw [h, Items.tokens]
      simp
    refine Decides.imp (parses_item h' (parses_tree t (by omega) h') fun f₁ hf₁ => ?_)
      (confirmed_more before t after rest) fun _ => id
    rw [parseFlowSequence_comma hf₁]
    refine (parses_items rest (by omega) (drop_tokens hf₁)).imp Iff.rfl fun r hr => hr.drop

theorem parses_members (members : Members) {handles : Handles} {start : Mark} {fuel : Nat}
    {f : Feed} {toks : List Token} (hfuel : 2 * members.tokens.length + 3 ≤ fuel)
    (h : f.tokens = members.tokens ++ .flowMappingEnd :: toks) :
    Decides (parseFlowPair handles start fuel f) (members.Each .confirmed)
      (MembersRead f toks (members.read .asScalars)) := by
  cases members with
  | last n t after =>
    have hlength : (Members.last n t after).tokens.length =
        n.tokens.length + t.tokens.length := by
      simp [Members.tokens]
    have hname := n.two_le_length_tokens
    obtain ⟨fuel, rfl⟩ : ∃ k, fuel = k + 4 := ⟨fuel - 4, by omega⟩
    have h' : f.tokens = n.tokens ++ (t.tokens ++ .flowMappingEnd :: toks) := by
      rw [h, Members.tokens, List.append_assoc]
    refine Decides.imp (parses_member h' (fun hn f₁ hf₁ => parses_tree t (by omega) hf₁)
      fun f₁ hf₁ => ?_) (confirmed_lastMember n t after) fun _ => id
    rw [parseFlowMapping_end hf₁ false]
    exact decides_ok (membersRead_end hf₁)
  | more n t after rest =>
    have hlength : (Members.more n t after rest).tokens.length =
        n.tokens.length + t.tokens.length + rest.tokens.length + 1 := by
      simp [Members.tokens, Nat.add_assoc]
    have hname := n.two_le_length_tokens
    obtain ⟨fuel, rfl⟩ : ∃ k, fuel = k + 4 := ⟨fuel - 4, by omega⟩
    have h' : f.tokens = n.tokens ++ (t.tokens ++
        .flowComma :: (rest.tokens ++ .flowMappingEnd :: toks)) := by
      rw [h, Members.tokens]
      simp
    refine Decides.imp (parses_member h' (fun hn f₁ hf₁ => parses_tree t (by omega) hf₁)
      fun f₁ hf₁ => ?_) (confirmed_moreMembers n t after rest) fun _ => id
    rw [parseFlowMapping_comma hf₁]
    exact (parses_members rest (by omega) (drop_tokens hf₁)).imp Iff.rfl fun r hr => hr.drop

end

/-! ## Documents -/

theorem parseStream_tree {t : Tree} (h : f.tokens = t.tokens) :
    parseStream f = (parseNode defaultHandles .block f.fuel f).map fun (id, f) => (some id, f) := by
  obtain ⟨tok, rest, htoks, hb⟩ := exists_tokens_eq t
  rw [htoks] at h
  obtain ⟨⟨tok, place, stop⟩, ls, hl, rfl, -⟩ := exists_lexeme h
  have hnext : f.next = .ok (some tok, place) := by rw [Lexemes.next, hl]
  unfold parseStream
  rw [hnext]
  cases tok <;> first | exact hb.elim | rfl

theorem requireEnd_of_nil {behind : Mark} (h : f.tokens = []) (hend : f.ending = .complete behind) :
    requireEnd start f = .ok () := by
  have hnil : f.lexemes = [] := List.map_eq_nil_iff.mp h
  have hnext : Lexemes.next { f.toLexemes with
      lexemes := f.lexemes.dropWhile fun l => l.token == Token.documentEnd } =
        .ok (none, behind) := by
    simp only [hnil, List.dropWhile_nil, Lexemes.next, hend]
  unfold requireEnd
  show (Lexemes.next { f.toLexemes with
    lexemes := f.lexemes.dropWhile fun l => l.token == Token.documentEnd } >>= _) = _
  rw [hnext]
  rfl

/-- The document of the tokens of a tree. -/
theorem ofLexemes?_tree {ls : Lexemes} {t : Tree} {behind : Mark}
    (h : ls.lexemes.map Lexeme.token = t.tokens) (hend : ls.ending = .complete behind) :
    Decides (Document.ofLexemes? ls) (t.Each .confirmed)
      fun d => ∃ g root, d = some ⟨g, root⟩ ∧ Stands g root (t.read .asScalars) := by
  let f : Feed := { toLexemes := ls }
  have hlength : t.tokens.length = ls.lexemes.length := by rw [← h, List.length_map]
  have hfuel : 2 * t.tokens.length + 2 ≤ f.fuel := by
    show _ ≤ 4 * ls.lexemes.length + 4
    omega
  have hnode : Decides (parseNode defaultHandles .block f.fuel f) (t.Each .confirmed)
      (NodeRead f [] (t.read .asScalars)) :=
    parses_tree t hfuel (h.trans (List.append_nil _).symm)
  have hstream : Decides (parseStream f) (t.Each .confirmed)
      fun r => ∃ x, r = (some x.1, x.2) ∧ NodeRead f [] (t.read .asScalars) x := by
    rw [parseStream_tree (f := f) h]
    exact hnode.map fun x hx => ⟨x, rfl, hx⟩
  refine hstream.bind_true ?_
  rintro _ ⟨⟨id, f'⟩, rfl, hread⟩
  have hrequire : requireEnd (f'.graph.node id).start f' = .ok () :=
    requireEnd_of_nil hread.tokens (hread.grows.ending.trans hend)
  show Decides (requireEnd (f'.graph.node id).start f' >>= _) True _
  rw [hrequire]
  exact decides_ok ⟨f'.graph, id, rfl, hread.stands⟩

end Yaml

end RemoteBindings
