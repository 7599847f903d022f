import RemoteBindings.Proofs.NodeValues
import RemoteBindings.Yaml.Document

/-!
# The end of the tokens

Whatever the parser reads, the end of the tokens stays what it is (`keeping`). A document is there
only if nothing but the end is left, so there is none in a text that cannot be read to its end
(`ending_of_ofLexemes?`).
-/

namespace RemoteBindings.Yaml

/-- What is read from a feed leaves another one with the same end. -/
def Keeps {α : Type} (f : Feed) (r : Result (α × Feed)) : Prop :=
  ∀ x, r = .ok x → x.2.ending = f.ending

section

variable {α β : Type} {f : Feed} {r : Result (α × Feed)}

theorem keeps_ok {x : α × Feed} (h : x.2.ending = f.ending) : Keeps f (.ok x) := by
  rintro _ ⟨⟩
  exact h

theorem keeps_error (e : Problem) : Keeps f (.error e : Result (α × Feed)) := by
  rintro _ ⟨⟩

theorem keeps_bind {γ : Type} {s : Result γ} {k : γ → Result (α × Feed)}
    (h : ∀ c, s = .ok c → Keeps f (k c)) : Keeps f (s >>= k) := by
  cases s with
  | error e => exact keeps_error e
  | ok c => exact h c rfl

theorem Keeps.bind {k : α × Feed → Result (β × Feed)} (h : Keeps f r)
    (h' : ∀ a f', f'.ending = f.ending → Keeps f' (k (a, f'))) : Keeps f (r >>= k) := by
  refine keeps_bind fun ⟨a, f'⟩ hr x hx => ?_
  have hending : f'.ending = f.ending := h _ hr
  exact (h' a f' hending x hx).trans hending

theorem Keeps.map {g : α × Feed → β × Feed} (h : Keeps f r)
    (hg : ∀ x, (g x).2.ending = x.2.ending) : Keeps f (r.map g) := by
  cases r with
  | error e => exact keeps_error e
  | ok x => exact keeps_ok ((hg x).trans (h x rfl))

theorem keeps_map {γ : Type} {s : Result γ} {g : γ → α × Feed}
    (h : ∀ c, (g c).2.ending = f.ending) : Keeps f (s.map g) := by
  cases s with
  | error e => exact keeps_error e
  | ok c => exact keeps_ok (h c)

theorem keeps_expects (context : Context) (what : Expected) :
    Keeps f (f.expects context what : Result (α × Feed)) := by
  unfold Lexemes.expects
  exact keeps_bind fun _ _ => keeps_error _

theorem keeps_takeProperties (f : Feed) : Keeps f (takeProperties f) := by
  unfold takeProperties
  split
  · exact keeps_ok rfl
  · exact keeps_ok rfl
  · exact keeps_map fun _ => rfl
  · exact keeps_map fun _ => rfl
  · exact keeps_ok rfl

theorem keeps_openNode (f : Feed) (anchor : Option String) (start : Mark) :
    Keeps f (f.openNode anchor start) := by
  unfold Feed.openNode
  dsimp only
  cases anchor with
  | none => exact keeps_ok rfl
  | some name =>
    dsimp only
    split
    · exact keeps_error _
    · exact keeps_ok rfl

end

/-- All that the parser reads with some fuel. -/
structure Keeping (fuel : Nat) : Prop where
  node : ∀ handles place f, Keeps f (parseNode handles place fuel f)
  content : ∀ handles place h f, Keeps f (parseContent handles place h fuel f)
  unlessNode : ∀ handles place behind p f, Keeps f (parseUnless handles place behind p fuel f)
  blockSequence : ∀ handles start f, Keeps f (parseBlockSequence handles start fuel f)
  bareSequence : ∀ handles f, Keeps f (parseBareSequence handles fuel f)
  value : ∀ handles place p f, Keeps f (parseValue handles place p fuel f)
  blockMapping : ∀ handles start f, Keeps f (parseBlockMapping handles start fuel f)
  flowSequence : ∀ handles start isFirst f, Keeps f (parseFlowSequence handles start isFirst fuel f)
  flowItem : ∀ handles start f, Keeps f (parseFlowItem handles start fuel f)
  flowMapping : ∀ handles start isFirst f, Keeps f (parseFlowMapping handles start isFirst fuel f)
  flowPair : ∀ handles start f, Keeps f (parseFlowPair handles start fuel f)

variable {fuel : Nat}

theorem keeps_node (ih : Keeping fuel) (handles : Handles) (place : Place) (f : Feed) :
    Keeps f (parseNode handles place (fuel + 1) f) := by
  unfold parseNode
  split
  · split
    · exact keeps_ok rfl
    · exact keeps_error _
  · refine keeps_bind fun _ _ => (keeps_takeProperties f).bind fun properties f _ => ?_
    refine keeps_bind fun _ _ => keeps_bind fun _ _ => ?_
    refine (keeps_openNode f _ _).bind fun id f _ => ?_
    exact (ih.content _ _ _ f).bind fun n f _ => keeps_ok rfl

theorem keeps_nothing (place : Place) (h : Head) (f : Feed) : Keeps f (parseNothing place h f) := by
  unfold parseNothing
  split
  · exact keeps_ok rfl
  · exact keeps_expects _ _

theorem keeps_content (ih : Keeping fuel) (handles : Handles) (place : Place) (h : Head)
    (f : Feed) : Keeps f (parseContent handles place h (fuel + 1) f) := by
  have hnothing := keeps_nothing place h f
  unfold parseContent
  split
  · exact keeps_ok rfl
  · exact Keeps.map (ih.flowSequence _ _ _ f.drop) fun _ => rfl
  · exact Keeps.map (ih.flowMapping _ _ _ f.drop) fun _ => rfl
  · split
    · exact (ih.bareSequence _ f).map fun _ => rfl
    · exact hnothing
  · split
    · exact hnothing
    · exact Keeps.map (ih.blockSequence _ _ f.drop) fun _ => rfl
  · split
    · exact hnothing
    · exact Keeps.map (ih.blockMapping _ _ f.drop) fun _ => rfl
  · exact hnothing

theorem keeps_unless (ih : Keeping fuel) (handles : Handles) (place : Place) (behind : Mark)
    (p : Token → Bool) (f : Feed) : Keeps f (parseUnless handles place behind p (fuel + 1) f) := by
  unfold parseUnless
  split
  · exact keeps_ok rfl
  · exact ih.node _ _ f

theorem keeps_blockSequence (ih : Keeping fuel) (handles : Handles) (start : Mark) (f : Feed) :
    Keeps f (parseBlockSequence handles start (fuel + 1) f) := by
  unfold parseBlockSequence
  split
  · refine Keeps.bind (f := f) (ih.unlessNode _ _ _ _ f.drop) fun n f _ => ?_
    exact (ih.blockSequence _ _ f).bind fun items f _ => keeps_ok rfl
  · exact keeps_ok rfl
  · exact keeps_expects _ _

theorem keeps_bareSequence (ih : Keeping fuel) (handles : Handles) (f : Feed) :
    Keeps f (parseBareSequence handles (fuel + 1) f) := by
  unfold parseBareSequence
  split
  · refine Keeps.bind (f := f) (ih.unlessNode _ _ _ _ f.drop) fun n f _ => ?_
    exact (ih.bareSequence _ f).bind fun items f _ => keeps_ok rfl
  · exact keeps_ok rfl

theorem keeps_value (ih : Keeping fuel) (handles : Handles) (place : Place) (p : Token → Bool)
    (f : Feed) : Keeps f (parseValue handles place p (fuel + 1) f) := by
  unfold parseValue
  split
  · exact ih.unlessNode _ _ _ _ f.drop
  · exact keeps_map fun _ => rfl

theorem keeps_blockMapping (ih : Keeping fuel) (handles : Handles) (start : Mark) (f : Feed) :
    Keeps f (parseBlockMapping handles start (fuel + 1) f) := by
  unfold parseBlockMapping
  split
  · refine Keeps.bind (f := f) (ih.unlessNode _ _ _ _ f.drop) fun k f _ => ?_
    refine (ih.value _ _ _ f).bind fun v f _ => ?_
    exact (ih.blockMapping _ _ f).bind fun es f _ => keeps_ok rfl
  · exact keeps_ok rfl
  · exact keeps_expects _ _

theorem keeps_flowSequence (ih : Keeping fuel) (handles : Handles) (start : Mark) (isFirst : Bool)
    (f : Feed) : Keeps f (parseFlowSequence handles start isFirst (fuel + 1) f) := by
  unfold parseFlowSequence
  split
  · exact keeps_ok rfl
  split
  · exact ih.flowItem _ _ f
  split
  · exact ih.flowItem _ _ f.drop
  · exact keeps_expects _ _

theorem keeps_flowItem (ih : Keeping fuel) (handles : Handles) (start : Mark) (f : Feed) :
    Keeps f (parseFlowItem handles start (fuel + 1) f) := by
  unfold parseFlowItem
  split
  · exact keeps_ok rfl
  · refine Keeps.bind (f := f) (ih.unlessNode _ _ _ _ f.drop) fun k f _ => ?_
    refine (ih.value _ _ _ f).bind fun v f _ => ?_
    exact Keeps.bind (f := f) (ih.flowSequence _ _ _ (f.add _).2) fun items f _ => keeps_ok rfl
  · refine (ih.node _ _ f).bind fun n f _ => ?_
    exact (ih.flowSequence _ _ _ f).bind fun items f _ => keeps_ok rfl

theorem keeps_flowMapping (ih : Keeping fuel) (handles : Handles) (start : Mark) (isFirst : Bool)
    (f : Feed) : Keeps f (parseFlowMapping handles start isFirst (fuel + 1) f) := by
  unfold parseFlowMapping
  split
  · exact keeps_ok rfl
  split
  · exact ih.flowPair _ _ f
  split
  · exact ih.flowPair _ _ f.drop
  · exact keeps_expects _ _

theorem keeps_flowPair (ih : Keeping fuel) (handles : Handles) (start : Mark) (f : Feed) :
    Keeps f (parseFlowPair handles start (fuel + 1) f) := by
  unfold parseFlowPair
  split
  · exact keeps_ok rfl
  · refine Keeps.bind (f := f) (ih.unlessNode _ _ _ _ f.drop) fun k f _ => ?_
    refine (ih.value _ _ _ f).bind fun v f _ => ?_
    exact (ih.flowMapping _ _ _ f).bind fun es f _ => keeps_ok rfl
  · refine (ih.node _ _ f).bind fun k f _ => ?_
    refine keeps_bind fun b _ => ?_
    exact Keeps.bind (f := f) (ih.flowMapping _ _ _ (f.addEmpty b.2).2) fun es f _ => keeps_ok rfl

theorem keeping (fuel : Nat) : Keeping fuel := by
  induction fuel with
  | zero => constructor <;> intros <;> exact keeps_error _
  | succ fuel ih => exact {
      node := keeps_node ih
      content := keeps_content ih
      unlessNode := keeps_unless ih
      blockSequence := keeps_blockSequence ih
      bareSequence := keeps_bareSequence ih
      value := keeps_value ih
      blockMapping := keeps_blockMapping ih
      flowSequence := keeps_flowSequence ih
      flowItem := keeps_flowItem ih
      flowMapping := keeps_flowMapping ih
      flowPair := keeps_flowPair ih }

/-! ## Documents -/

theorem keeps_openDocument (f : Feed) : Keeps f f.openDocument := by
  unfold Feed.openDocument
  refine keeps_bind fun c _ => ?_
  dsimp only
  split
  · exact keeps_ok rfl
  · exact keeps_expects (f := { f with lexemes := c.2 }) _ _

theorem keeps_parseDocument (handles : Handles) (f : Feed) :
    Keeps f (parseDocument handles f) := by
  unfold parseDocument
  refine keeps_bind fun c _ => ?_
  dsimp only
  split
  · exact keeps_ok rfl
  · exact (keeping _).node _ _ f

theorem keeps_parseStream (f : Feed) : Keeps f (parseStream f) := by
  unfold parseStream
  refine keeps_bind fun c _ => ?_
  split
  · exact keeps_ok rfl
  · exact (keeps_openDocument f).bind fun p f _ => (keeps_parseDocument _ f).map fun _ => rfl
  · exact (keeps_openDocument f).bind fun p f _ => (keeps_parseDocument _ f).map fun _ => rfl
  · exact ((keeping _).node _ _ f).map fun _ => rfl

theorem ending_of_next {ls : Lexemes} {place : Mark} (h : ls.next = .ok (none, place)) :
    ls.ending = .complete place := by
  unfold Lexemes.next at h
  split at h
  · cases h
  · next hending =>
    cases h
    exact hending
  · cases h

theorem ne_none_of_map {r : Result (NodeId × Feed)} {f : Feed} :
    (r.map fun (id, f) => (some id, f)) ≠ .ok (none, f) := by
  cases r with
  | error e => exact fun h => by cases h
  | ok x => exact fun h => by cases h

/-- An empty stream has been read to its end. -/
theorem ending_of_parseStream_none {f f' : Feed} (h : parseStream f = .ok (none, f')) :
    ∃ place, f.ending = .complete place := by
  obtain ⟨c, hnext, h⟩ := exists_of_bind_eq_ok h
  split at h
  · exact ⟨_, ending_of_next hnext⟩
  · obtain ⟨_, -, h⟩ := exists_of_bind_eq_ok h
    exact absurd h ne_none_of_map
  · obtain ⟨_, -, h⟩ := exists_of_bind_eq_ok h
    exact absurd h ne_none_of_map
  · exact absurd h ne_none_of_map

theorem ending_of_requireEnd {start : Mark} {f : Feed} (h : requireEnd start f = .ok ()) :
    ∃ place, f.ending = .complete place := by
  obtain ⟨c, hnext, h⟩ := exists_of_bind_eq_ok h
  split at h
  · have hending := ending_of_next hnext
    exact ⟨_, hending⟩
  · obtain ⟨_, -, h⟩ := exists_of_bind_eq_ok h
    cases h

/-- There is no document in a text that cannot be read to its end. -/
theorem ending_of_ofLexemes? {ls : Lexemes} {d : Option Document}
    (h : Document.ofLexemes? ls = .ok d) : ∃ place, ls.ending = .complete place := by
  obtain ⟨⟨root, f⟩, hstream, h⟩ := exists_of_bind_eq_ok h
  cases root with
  | none => exact ending_of_parseStream_none hstream
  | some root =>
    obtain ⟨_, hrequire, -⟩ := exists_of_bind_eq_ok h
    obtain ⟨place, hplace⟩ := ending_of_requireEnd hrequire
    have hkept : f.ending = ls.ending := keeps_parseStream { toLexemes := ls } _ hstream
    exact ⟨place, hkept ▸ hplace⟩

end RemoteBindings.Yaml
