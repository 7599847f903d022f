import RemoteBindings.Descriptor.File
import RemoteBindings.Proofs.JsonGrammar

/-!
# JSON texts without escapes

A surrogate by itself gets into the value of a JSON text only where an escape gives its code. So a
text without a backslash has the same value whatever character is read for one
(`read?_of_isUnescaped`), and a file with such a text the same descriptor (`load_of_isUnescaped`).
-/

namespace RemoteBindings

namespace Json

variable (surrogate : Text.LoneSurrogate) {cs rest : List Char} {fuel : Nat}

/-- A text without escapes, whose lines end with line feeds. -/
def IsUnescaped (cs : List Char) : Prop := '\\' ∉ cs ∧ '\r' ∉ cs

instance : Decidable (IsUnescaped cs) := inferInstanceAs (Decidable (_ ∧ _))

theorem IsUnescaped.subset (h : IsUnescaped cs) (hs : rest ⊆ cs) : IsUnescaped rest :=
  ⟨fun hm => h.1 (hs hm), fun hm => h.2 (hs hm)⟩

theorem IsUnescaped.tail {c : Char} (h : IsUnescaped (c :: cs)) : IsUnescaped cs :=
  h.subset (List.subset_cons_self c cs)

theorem IsUnescaped.skipSpace (h : IsUnescaped cs) : IsUnescaped (skipSpace cs) :=
  h.subset (List.dropWhile_sublist _).subset

theorem IsUnescaped.append_right (h : IsUnescaped (cs ++ rest)) : IsUnescaped rest :=
  h.subset (List.subset_append_right cs rest)

theorem takeCharacter_of_ne {c : Char} (hc : c ≠ '\\') (cs : List Char) :
    @takeCharacter surrogate (c :: cs) =
      if c.toNat < 0x20 then .error ⟨.controlCharacter, cs.length + 1⟩ else .ok (c, cs) := by
  unfold takeCharacter
  split <;> simp_all

theorem readCharacters_of_isUnescaped (done : List Char) (h : IsUnescaped cs) :
    @readCharacters surrogate fuel done cs = @readCharacters .replacement fuel done cs := by
  induction fuel generalizing done cs with
  | zero => rfl
  | succ fuel ih =>
    cases cs with
    | nil => rfl
    | cons c cs =>
      have hc : c ≠ '\\' := fun he => h.1 (he ▸ List.mem_cons_self)
      unfold readCharacters
      split
      · rfl
      · rw [takeCharacter_of_ne surrogate hc, takeCharacter_of_ne .replacement hc]
        by_cases hlow : c.toNat < 0x20
        · rw [if_pos hlow]
        · rw [if_neg hlow]
          exact ih _ h.tail

theorem readString_of_isUnescaped (opened : List Char) (h : IsUnescaped rest) :
    @readString surrogate opened rest = @readString .replacement opened rest := by
  unfold readString
  rw [readCharacters_of_isUnescaped surrogate _ h]

/-- With some fuel a text without escapes is read the same. -/
structure SameReading (fuel : Nat) : Prop where
  value : ∀ {cs}, IsUnescaped cs →
    @readValue surrogate fuel cs = @readValue .replacement fuel cs
  items : ∀ {done cs}, IsUnescaped cs →
    @readItems surrogate fuel done cs = @readItems .replacement fuel done cs
  members : ∀ {done cs}, IsUnescaped cs →
    @readMembers surrogate fuel done cs = @readMembers .replacement fuel done cs

theorem IsUnescaped.of_readValue {v : Value} (h : IsUnescaped cs)
    (hv : @readValue .replacement fuel cs = .ok (v, rest)) : IsUnescaped rest := by
  obtain ⟨t, rfl, -⟩ := (sound fuel).value h.2 hv
  exact h.append_right

variable {surrogate}

theorem sameReading_value (ih : SameReading surrogate fuel) (h : IsUnescaped cs) :
    @readValue surrogate (fuel + 1) cs = @readValue .replacement (fuel + 1) cs := by
  unfold readValue
  split
  · rw [readString_of_isUnescaped surrogate _ h.tail]
  · split
    · rfl
    · exact ih.items h.tail.skipSpace
  · split
    · rfl
    · exact ih.members h.tail.skipSpace
  · rfl

theorem sameReading_items (ih : SameReading surrogate fuel) {done : List Value}
    (h : IsUnescaped cs) :
    @readItems surrogate (fuel + 1) done cs = @readItems .replacement (fuel + 1) done cs := by
  unfold readItems
  rw [ih.value h]
  split
  · rfl
  · rename_i v rest hv
    have hrest : IsUnescaped (skipSpace rest) := (h.of_readValue hv).skipSpace
    split
    · rfl
    · rename_i hcomma
      rw [hcomma] at hrest
      exact ih.items hrest.tail.skipSpace
    · rfl

theorem sameReading_members (ih : SameReading surrogate fuel) {done : List (Value × Value)}
    (h : IsUnescaped cs) :
    @readMembers surrogate (fuel + 1) done cs = @readMembers .replacement (fuel + 1) done cs := by
  unfold readMembers
  split
  · rename_i rest
    rw [readString_of_isUnescaped surrogate _ h.tail]
    split
    · rfl
    · rename_i name more hname
      obtain ⟨ls, hls, -⟩ := exists_string hname
      rw [hls] at h
      have hcolon : IsUnescaped (skipSpace more) := h.append_right.skipSpace
      split
      · rename_i behind hbehind
        rw [hbehind] at hcolon
        have hvalue : IsUnescaped (skipSpace behind) := hcolon.tail.skipSpace
        rw [ih.value hvalue]
        split
        · rfl
        · rename_i v last hv
          have hlast : IsUnescaped (skipSpace last) := (hvalue.of_readValue hv).skipSpace
          split
          · rfl
          · rename_i hcomma
            rw [hcomma] at hlast
            exact ih.members hlast.tail.skipSpace
          · rfl
      · rfl
  · rfl

theorem sameReading (fuel : Nat) : SameReading surrogate fuel := by
  induction fuel with
  | zero => exact ⟨fun _ => rfl, fun _ => rfl, fun _ => rfl⟩
  | succ fuel ih => exact ⟨sameReading_value ih, sameReading_items ih, sameReading_members ih⟩

/-- The value of a text without escapes does not depend on what is read for a surrogate. -/
theorem read?_of_isUnescaped {text : String} (h : IsUnescaped text.toList) :
    @read? surrogate text = @read? .replacement text := by
  have hdocument : @readDocument surrogate text.toList = @readDocument .replacement text.toList := by
    unfold readDocument
    split
    · rfl
    · rw [(sameReading _).value h.skipSpace]
  unfold read?
  rw [hdocument]

end Json

namespace Descriptor

variable {surrogate : Text.LoneSurrogate} {path : Path} {content : Except DiskError (List UInt8)}

theorem load_error (e : DiskError) : @load surrogate path (.error e) = .error (.unreadable e) := rfl

theorem load_ok (bytes : List UInt8) : @load surrogate path (.ok bytes) =
    (decodeText bytes).bind fun text =>
      (@parseText surrogate path text).bind fun v => (build v).mapError .refused := rfl

/-- A JSON file without escapes holds the same descriptor whatever is read for a surrogate. -/
theorem load_of_isUnescaped (hp : path.hasEnding ".json" = true)
    (h : ∀ bytes ∈ content.toOption, ∀ text ∈ (decodeText bytes).toOption,
      Json.IsUnescaped text.toList) :
    @load surrogate path content = @load .replacement path content := by
  have hparse {text : String} (ht : Json.IsUnescaped text.toList) :
      @parseText surrogate path text = @parseText .replacement path text := by
    unfold parseText
    rw [if_pos hp, if_pos hp, Json.read?_of_isUnescaped ht]
  cases content with
  | error e => rw [load_error, load_error]
  | ok bytes =>
    rw [load_ok, load_ok]
    cases hd : decodeText bytes with
    | error e => rw [Except.bind, Except.bind]
    | ok text =>
      have ht : text ∈ (decodeText bytes).toOption := by rw [hd]; rfl
      rw [Except.bind, Except.bind, hparse (h bytes rfl text ht)]

end Descriptor

end RemoteBindings
