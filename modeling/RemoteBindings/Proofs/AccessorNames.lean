import Mathlib.Data.List.Basic
import RemoteBindings.Proofs.Scopes

/-!
# Which names are read as those of accessors

`AccessorName.parse?` cuts a name at fixed places. A search that may go back has many more to try:
any number of characters without an underscore for the operation, and any number without a line feed
for the scope. `readings` lists all that such a search can find. They are the accessors whose
composed name it is, with one final line feed or without (`mem_readings`), and there is at most one
of them, the one that `parse?` takes (`readings_eq`): an operation that ends early has no underscore
behind it, and a scope that ends early no end. `parse?_iff_composed` puts this together.
-/

namespace RemoteBindings.AccessorName

variable {α : Type} {p : Char → Bool} {cs : List Char} {name : String} {a : AccessorName}

/-- The operation is not empty and has no underscore, and the scope is one line that is not empty.
-/
structure Proper (a : AccessorName) : Prop where
  op_ne_empty : a.op ≠ ""
  op_plain : '_' ∉ a.op.toList
  scope_ne_empty : a.scope ≠ ""
  scope_line : '\n' ∉ a.scope.toList

/-! ## Searching -/

/-- The ways to take one or more characters that pass a test off a text, the longest first. -/
def pieces (p : Char → Bool) : List Char → List (List Char × List Char)
  | [] => []
  | c :: cs => if p c then (pieces p cs).map (fun s => (c :: s.1, s.2)) ++ [([c], cs)] else []

/-- What follows a fixed text, if there is such a text in front. -/
def behind (text cs : List Char) : List (List Char) :=
  if text.isPrefixOf cs then [cs.drop text.length] else []

/-- The scopes that a text may consist of, with one final line feed or without. -/
def scopePieces (cs : List Char) : List (List Char) :=
  ((pieces (· != '\n') cs).filter fun s => s.2 = [] ∨ s.2 = ['\n']).map Prod.fst

/-- All ways to read a name as that of an accessor, in the order in which a search comes to them
that tries long pieces first and goes back. -/
def readings (name : String) : List AccessorName :=
  (behind opening name.toList).flatMap fun tail =>
    (pieces (· != '_') tail).flatMap fun s =>
      (behind "__".toList s.2).flatMap fun tail =>
        (scopePieces tail).map fun scope => ⟨String.ofList s.1, String.ofList scope⟩

theorem forall_mem_bne_iff {x : Char} : (∀ c ∈ cs, (c != x) = true) ↔ x ∉ cs := by
  simp only [bne_iff_ne, ne_eq, List.forall_mem_ne']

theorem mem_pieces {s : List Char × List Char} :
    s ∈ pieces p cs ↔ s.1 ≠ [] ∧ (∀ c ∈ s.1, p c = true) ∧ cs = s.1 ++ s.2 := by
  induction cs generalizing s with
  | nil =>
    refine iff_of_false List.not_mem_nil fun ⟨hne, _, he⟩ => hne ?_
    exact (List.append_eq_nil_iff.mp he.symm).1
  | cons c cs ih =>
    rw [pieces]
    split
    · rename_i hc
      rw [List.mem_append, List.mem_map, List.mem_singleton]
      constructor
      · rintro (⟨s, hs, rfl⟩ | rfl)
        · obtain ⟨-, hp, rfl⟩ := ih.mp hs
          exact ⟨List.cons_ne_nil _ _, List.forall_mem_cons.mpr ⟨hc, hp⟩, rfl⟩
        · exact ⟨List.cons_ne_nil _ _, by simpa using hc, rfl⟩
      · obtain ⟨_ | ⟨x, xs⟩, rest⟩ := s
        · exact fun h => absurd rfl h.1
        · rintro ⟨-, hp, he⟩
          obtain ⟨rfl, rfl⟩ := List.cons.inj he
          cases xs with
          | nil => exact .inr rfl
          | cons y ys =>
            refine .inl ⟨(y :: ys, rest), ih.mpr ⟨List.cons_ne_nil _ _, ?_, rfl⟩, rfl⟩
            exact (List.forall_mem_cons.mp hp).2
    · rename_i hc
      refine iff_of_false List.not_mem_nil ?_
      obtain ⟨_ | ⟨x, xs⟩, rest⟩ := s
      · exact fun h => h.1 rfl
      · rintro ⟨-, hp, he⟩
        obtain ⟨rfl, rfl⟩ := List.cons.inj he
        exact hc (hp c List.mem_cons_self)

/-- Where a piece leads nowhere if it could be longer, the longest one is the only one that counts.
-/
theorem flatMap_pieces {f : List Char × List Char → List α}
    (hf : ∀ x c cs, p c = true → f (x, c :: cs) = []) :
    (pieces p cs).flatMap f =
      if cs.takeWhile p = [] then [] else f (cs.takeWhile p, cs.dropWhile p) := by
  induction cs generalizing f with
  | nil => rfl
  | cons c cs ih =>
    rw [pieces, List.takeWhile_cons, List.dropWhile_cons]
    cases hc : p c with
    | false => rfl
    | true =>
      have hlonger := @ih (fun s => f (c :: s.1, s.2)) fun x d ds => hf (c :: x) d ds
      rw [if_pos rfl, List.flatMap_append, List.flatMap_map, hlonger, List.flatMap_singleton]
      simp only [if_true, if_neg (List.cons_ne_nil c _)]
      -- The piece of `c` alone leads on only if no longer one does.
      cases cs with
      | nil => rfl
      | cons d ds =>
        cases hd : p d with
        | false => simp [hd]
        | true => simp [hd, hf [c] d ds hd]

theorem mem_behind {text tail : List Char} : tail ∈ behind text cs ↔ cs = text ++ tail := by
  rw [behind]
  split
  · rename_i h
    obtain ⟨rest, rfl⟩ := List.isPrefixOf_iff_prefix.mp h
    rw [List.drop_left, List.mem_singleton, List.append_cancel_left_eq, eq_comm]
  · rename_i h
    refine iff_of_false List.not_mem_nil ?_
    rintro rfl
    exact h (List.isPrefixOf_iff_prefix.mpr (List.prefix_append _ _))

theorem behind_cons {b c : Char} (text : List Char) (hc : b ≠ c) :
    behind (b :: text) (c :: cs) = [] := by
  rw [behind, if_neg]
  simp [hc]

theorem mem_scopePieces {scope : List Char} :
    scope ∈ scopePieces cs ↔
      (scope ≠ [] ∧ '\n' ∉ scope) ∧ (cs = scope ∨ cs = scope ++ ['\n']) := by
  rw [scopePieces, List.mem_map]
  constructor
  · rintro ⟨⟨scope, rest⟩, hs, rfl⟩
    obtain ⟨hs, hrest⟩ := List.mem_filter.mp hs
    obtain ⟨hne, hl, rfl⟩ := mem_pieces.mp hs
    refine ⟨⟨hne, forall_mem_bne_iff.mp hl⟩, ?_⟩
    rcases of_decide_eq_true hrest with rfl | rfl
    · exact .inl (List.append_nil scope)
    · exact .inr rfl
  · rintro ⟨⟨hne, hl⟩, hcs⟩
    have hl := forall_mem_bne_iff.mpr hl
    rcases hcs with rfl | rfl
    · have hs : (cs, []) ∈ pieces (· != '\n') cs :=
        mem_pieces.mpr ⟨hne, hl, (List.append_nil cs).symm⟩
      exact ⟨(cs, []), List.mem_filter.mpr ⟨hs, rfl⟩, rfl⟩
    · have hs : (scope, ['\n']) ∈ pieces (· != '\n') (scope ++ ['\n']) :=
        mem_pieces.mpr ⟨hne, hl, rfl⟩
      exact ⟨(scope, ['\n']), List.mem_filter.mpr ⟨hs, rfl⟩, rfl⟩

/-! ## At most one reading -/

/-- A scope that is shorter than the first line has no end behind it. -/
theorem scopePieces_eq (cs : List Char) : scopePieces cs = (scopeOf? cs).toList := by
  have hf : scopePieces cs = (pieces (· != '\n') cs).flatMap fun s =>
      if s.2 = [] ∨ s.2 = ['\n'] then [s.1] else [] := by
    rw [scopePieces, ← List.filterMap_eq_map, List.filterMap_filter,
      List.filterMap_eq_flatMap_toList]
    refine List.flatMap_congr fun s _ => ?_
    by_cases hs : s.2 = [] ∨ s.2 = ['\n'] <;> simp [hs]
  rw [hf, flatMap_pieces, scopeOf?]
  · generalize cs.takeWhile (· != '\n') = line
    generalize cs.dropWhile (· != '\n') = rest
    by_cases hl : line = []
    · simp [hl]
    · by_cases hr : rest = [] ∨ rest = ['\n'] <;> simp [hl, hr]
  · intro x c cs hc
    have hne : c ≠ '\n' := by simpa using hc
    simp [hne]

/-- A search that goes back finds one way to read a name at most, and it is the one that is taken.
-/
theorem readings_eq (name : String) : readings name = (parse? name).toList := by
  rw [readings, parse?, behind]
  split
  · rw [List.flatMap_singleton, parseTail?, flatMap_pieces]
    · simp only [scopePieces_eq]
      generalize (List.drop opening.length name.toList).takeWhile (· != '_') = op
      generalize (List.drop opening.length name.toList).dropWhile (· != '_') = rest
      cases op with
      | nil => rfl
      | cons c op =>
        rw [if_neg (List.cons_ne_nil c op)]
        split
        · rename_i tail _
          have hb : behind "__".toList ('_' :: '_' :: tail) = [tail] := rfl
          rw [hb, List.flatMap_singleton, Option.toList_map]
        · rename_i rest _ _ hno
          have hb : behind "__".toList rest = [] :=
            List.eq_nil_iff_forall_not_mem.mpr fun tail ht => hno c op tail rfl (mem_behind.mp ht)
          rw [hb]
          rfl
    · intro x c cs hc
      have hne : c ≠ '_' := by simpa using hc
      exact congrArg (List.flatMap _) (behind_cons _ hne.symm)
  · rfl

/-! ## Composed names -/

theorem toList_compose (a : AccessorName) :
    a.compose.toList = opening ++ (a.op.toList ++ ("__".toList ++ a.scope.toList)) := by
  have ho : opening = "prototype.__".toList := rfl
  rw [ho, compose]
  simp only [String.toList_append]
  rw [List.append_assoc, List.append_assoc]

/-- The readings of a name are the accessors whose name it is, up to a final line feed. -/
theorem mem_readings :
    a ∈ readings name ↔ a.Proper ∧ (name = a.compose ∨ name = a.compose ++ "\n") := by
  simp only [readings, List.mem_flatMap, mem_behind, List.mem_map]
  constructor
  · rintro ⟨_, hn, ⟨op, _⟩, hs, tail, rfl, scope, ht, rfl⟩
    obtain ⟨hop, hplain, rfl⟩ := mem_pieces.mp hs
    obtain ⟨⟨hscope, hline⟩, htail⟩ := mem_scopePieces.mp ht
    refine ⟨⟨by simpa using hop, by simpa using forall_mem_bne_iff.mp hplain,
      by simpa using hscope, by simpa using hline⟩, ?_⟩
    simp only [← String.toList_inj, String.toList_append, toList_compose, String.toList_ofList]
    rcases htail with rfl | rfl
    · exact .inl hn
    · exact .inr (by rw [hn]; simp)
  · rintro ⟨ha, hn⟩
    have htail : ∃ tail, (tail = a.scope.toList ∨ tail = a.scope.toList ++ ['\n']) ∧
        name.toList = opening ++ (a.op.toList ++ ("__".toList ++ tail)) := by
      rcases hn with rfl | rfl
      · exact ⟨_, .inl rfl, toList_compose a⟩
      · exact ⟨_, .inr rfl, by rw [String.toList_append, toList_compose]; simp⟩
    obtain ⟨tail, ht, hname⟩ := htail
    have hop : (a.op.toList, "__".toList ++ tail) ∈
        pieces (· != '_') (a.op.toList ++ ("__".toList ++ tail)) :=
      mem_pieces.mpr ⟨by simpa using ha.op_ne_empty, forall_mem_bne_iff.mpr ha.op_plain, rfl⟩
    have hscope : a.scope.toList ∈ scopePieces tail :=
      mem_scopePieces.mpr ⟨⟨by simpa using ha.scope_ne_empty, ha.scope_line⟩, ht⟩
    exact ⟨_, hname, _, hop, tail, rfl, _, hscope, by
      rw [String.ofList_toList, String.ofList_toList]⟩

theorem parse?_eq_some_iff :
    parse? name = some a ↔ a.Proper ∧ (name = a.compose ∨ name = a.compose ++ "\n") := by
  rw [← mem_readings, readings_eq, Option.mem_toList]

/-- A search through all ways to read a name finds what `parse?` takes and no other. A name is read
as that of an accessor exactly if it is the composed one, with one final line feed or without, of an
operation without underscores and a scope of one line, neither of them empty. No name is that of two
such accessors, so a composed name is read as what it was composed of, and the method that has it is
listed under its operation and its scope. -/
theorem parse?_iff_composed (name : String) :
    readings name = (parse? name).toList ∧
    (∀ a, parse? name = some a ↔
      a.Proper ∧ (name = a.compose ∨ name = a.compose ++ "\n")) ∧
    (∀ a b : AccessorName, a.Proper → b.Proper → (name = a.compose ∨ name = a.compose ++ "\n") →
      (name = b.compose ∨ name = b.compose ++ "\n") → a = b) ∧
    (∀ a : AccessorName, a.Proper → name = a.compose → parse? name = some a) ∧
    ∀ (r : Registry) (model : Model) (m : Method) (a : AccessorName), m.name = name →
      parse? name = some a →
        (groupMethod r model m).method = { m.fresh with name := a.op ++ "__" ++ a.scope } := by
  refine ⟨readings_eq name, fun a => parse?_eq_some_iff, fun a b ha hb hna hnb => ?_,
    fun a ha hn => parse?_eq_some_iff.mpr ⟨ha, .inl hn⟩, ?_⟩
  · have hpa : parse? name = some a := parse?_eq_some_iff.mpr ⟨ha, hna⟩
    have hpb : parse? name = some b := parse?_eq_some_iff.mpr ⟨hb, hnb⟩
    exact Option.some.inj (hpa.symm.trans hpb)
  · rintro r model m a rfl hp
    rw [groupMethod_method, Method.listed, hp]
    rfl

/-- A scope may begin with an underscore, and two final line feeds are one too many. -/
example : parse? "prototype.__get___tags\n" = some ⟨"get", "_tags"⟩ ∧
    parse? "prototype.__get__tags\n\n" = none := by
  decide +kernel

end RemoteBindings.AccessorName
