import RemoteBindings.Disk
import RemoteBindings.Proofs.Entries
import RemoteBindings.Proofs.Results

/-!
# What writing leaves on a disk

A file can only be written where its directory is (`hasDirectory_of_locate`), so writing makes no
directories and every path still leads where it led before (`locate_write`). Some files that are
written one after the other are put to their places in turn (`writeEach_eq_ok`): afterwards every
path holds its content exactly if no two of them lead to one place with different contents
(`forall_read_iff`), and every other place is as it was.
-/

namespace RemoteBindings.Disk

variable {d d' : Disk} {p q : Place} {path : Path} {content : List UInt8} {name : String}
  {names : List String}

/-- Writes files one after the other. -/
def writeEach (d : Disk) : List (Path × List UInt8) → Except DiskError Disk
  | [] => .ok d
  | (path, content) :: files =>
    match d.write path content with
    | .error e => .error e
    | .ok d => d.writeEach files

/-! ## Directories -/

theorem hasDirectory_of_prefix (hp : p <+: q) (h : d.hasDirectory q = true) :
    d.hasDirectory p = true := by
  simp only [hasDirectory, Bool.or_eq_true, List.any_eq_true, List.isEmpty_iff, Bool.and_eq_true,
    List.isPrefixOf_iff_prefix, bne_iff_ne] at h ⊢
  rcases h with (rfl | ⟨x, hx, hq⟩) | ⟨x, hx, hq, hne⟩
  · exact .inl (.inl (List.prefix_nil.mp hp))
  · exact .inl (.inr ⟨x, hx, hp.trans hq⟩)
  · refine .inr ⟨x, hx, hp.trans hq, ?_⟩
    rintro rfl
    exact hne (hq.eq_of_length_le hp.length_le)

theorem hasDirectory_dropLast (h : d.hasDirectory p = true) : d.hasDirectory p.dropLast = true :=
  hasDirectory_of_prefix (List.dropLast_prefix p) h

theorem enter_eq_ok_iff : d.enter p name = .ok q ↔
    if name = ".." then q = p.dropLast
    else name.utf8ByteSize ≤ maxNameBytes ∧ q = p ++ [name] ∧ d.hasDirectory q = true := by
  unfold enter
  split
  · simp [eq_comm]
  · split
    · simp [Nat.not_le.mpr ‹_›]
    · rename_i hl
      simp only
      split
      · rename_i hd
        simp only [Except.ok.injEq, Nat.not_lt.mp hl, true_and]
        constructor
        · rintro rfl
          exact ⟨rfl, hd⟩
        · exact fun h => h.1.symm
      · rename_i hd
        have hq : ¬ (q = p ++ [name] ∧ d.hasDirectory q = true) := by
          rintro ⟨rfl, h⟩
          exact hd h
        split <;> simp [hq]

theorem hasDirectory_of_enter (hp : d.hasDirectory p = true) (h : d.enter p name = .ok q) :
    d.hasDirectory q = true := by
  rw [enter_eq_ok_iff] at h
  split at h
  · rw [h]
    exact hasDirectory_dropLast hp
  · exact h.2.2

theorem follow_cons_eq_ok_iff (hn : names ≠ []) : d.follow p (name :: names) = .ok q ↔
    ∃ p', d.enter p name = .ok p' ∧ d.follow p' names = .ok q := by
  rw [follow.eq_3 _ _ _ _ hn, bind_eq_ok_iff]

/-- The directory in which the end of a path lies is there. -/
theorem hasDirectory_of_follow (hp : d.hasDirectory p = true) (h : d.follow p names = .ok q) :
    d.hasDirectory q.dropLast = true := by
  induction names generalizing p with
  | nil =>
    cases h
    exact hasDirectory_dropLast hp
  | cons name names ih =>
    by_cases hn : names = []
    · rw [hn, follow] at h
      split at h
      · cases h
        exact hasDirectory_dropLast (hasDirectory_dropLast hp)
      · split at h
        · cases h
        · cases h
          rwa [List.dropLast_concat]
    · obtain ⟨p', he, hf⟩ := (follow_cons_eq_ok_iff hn).mp h
      exact ih (hasDirectory_of_enter hp he) hf

theorem hasDirectory_of_locate (h : d.locate path = .ok p) : d.hasDirectory p.dropLast = true := by
  unfold locate at h
  split at h
  · exact hasDirectory_of_follow rfl h
  · cases h

/-- A path leads to a place of the name in which it ends. -/
theorem getLast?_of_follow (hn : name ≠ "..") (h : d.follow p (names ++ [name]) = .ok q) :
    q.getLast? = some name := by
  induction names generalizing p with
  | nil =>
    rw [List.nil_append, follow, if_neg hn] at h
    split at h
    · cases h
    · cases h
      exact List.getLast?_concat
  | cons first names ih =>
    obtain ⟨p', -, hf⟩ := (follow_cons_eq_ok_iff (by simp)).mp h
    exact ih hf

/-- Where a path leads depends on the directories alone. -/
theorem locate_congr (hd : ∀ p, d'.hasDirectory p = d.hasDirectory p) :
    d'.locate path = .ok p ↔ d.locate path = .ok p := by
  have hf (names : List String) (start : Place) :
      d'.follow start names = .ok p ↔ d.follow start names = .ok p := by
    induction names generalizing start with
    | nil => rfl
    | cons name names ih =>
      by_cases hn : names = []
      · rw [hn, follow, follow]
      · simp only [follow_cons_eq_ok_iff hn, enter_eq_ok_iff, hd, ih]
  unfold locate
  split
  · exact hf _ _
  · rfl

/-! ## One file -/

theorem write_eq_ok_iff : d.write path content = .ok d' ↔
    ∃ p, d.locate path = .ok p ∧ d.hasDirectory p = false ∧
      d' = { d with files := Entries.put p content d.files } := by
  rw [write, bind_eq_ok_iff]
  refine exists_congr fun p => and_congr_right fun _ => ?_
  cases d.hasDirectory p with
  | true => simp [throw, throwThe, MonadExceptOf.throw, bind, Except.bind]
  | false => exact ⟨fun h => ⟨rfl, (Except.ok.inj h).symm⟩, fun h => congrArg Except.ok h.2.symm⟩

/-- A new file lies in a directory, so with it there are no other directories than before. -/
theorem hasDirectory_write (h : d.write path content = .ok d') (q : Place) :
    d'.hasDirectory q = d.hasDirectory q := by
  obtain ⟨p, hl, hd, rfl⟩ := write_eq_ok_iff.mp h
  have hp : p ≠ [] := by
    rintro rfl
    cases hd
  have habove : (q.isPrefixOf p && q != p) = true → d.hasDirectory q = true := by
    rw [Bool.and_eq_true, List.isPrefixOf_iff_prefix, bne_iff_ne]
    rintro ⟨hpre, hne⟩
    rw [← List.dropLast_concat_getLast hp] at hpre hne
    exact hasDirectory_of_prefix ((List.prefix_concat_iff.mp hpre).resolve_left hne)
      (hasDirectory_of_locate hl)
  rw [hasDirectory, hasDirectory, Entries.keys_put]
  split
  · rfl
  · rw [List.any_append, List.any_cons, List.any_nil, Bool.or_false, ← Bool.or_assoc]
    refine (Bool.or_eq_left_iff_imp).mpr fun ha => ?_
    exact habove ha

theorem locate_write (h : d.write path content = .ok d') {path' : Path} :
    d'.locate path' = .ok p ↔ d.locate path' = .ok p :=
  locate_congr (hasDirectory_write h)

/-! ## Some files -/

variable {files : List (Path × List UInt8)}

/-- The place to which a path leads, if it leads anywhere. -/
def placeOf (d : Disk) (path : Path) : Place := (d.locate path).toOption.getD []

/-- The contents of some files with the places to which their paths lead. -/
def placed (d : Disk) (files : List (Path × List UInt8)) : List (Place × List UInt8) :=
  files.map fun f => (d.placeOf f.1, f.2)

theorem placeOf_of_locate (h : d.locate path = .ok p) : d.placeOf path = p := by
  rw [placeOf, h]
  rfl

theorem locate_writeEach (h : d.writeEach files = .ok d') {path' : Path} :
    d'.locate path' = .ok p ↔ d.locate path' = .ok p := by
  induction files generalizing d with
  | nil =>
    cases h
    rfl
  | cons f files ih =>
    unfold writeEach at h
    split at h
    · cases h
    · rename_i hw
      rw [ih h, locate_write hw]

/-- The files are put to their places in turn. -/
theorem writeEach_eq_ok (h : d.writeEach files = .ok d') :
    (∀ f ∈ files, d'.locate f.1 = .ok (d'.placeOf f.1)) ∧
      d'.files = (d'.placed files).foldl (fun acc e => Entries.put e.1 e.2 acc) d.files := by
  induction files generalizing d with
  | nil =>
    cases h
    exact ⟨fun _ hf => (List.not_mem_nil hf).elim, rfl⟩
  | cons f files ih =>
    have hlast : ∀ p, d'.locate f.1 = .ok p ↔ d.locate f.1 = .ok p := fun p => locate_writeEach h
    unfold writeEach at h
    split at h
    · cases h
    · rename_i d₁ hw
      obtain ⟨p, hl, -, rfl⟩ := write_eq_ok_iff.mp hw
      obtain ⟨hlocated, hfiles⟩ := ih h
      have hp : d'.locate f.1 = .ok p := (hlast p).mpr hl
      have hplace : d'.placeOf f.1 = p := placeOf_of_locate hp
      refine ⟨List.forall_mem_cons.mpr ⟨hplace ▸ hp, hlocated⟩, ?_⟩
      rw [placed, List.map_cons, List.foldl_cons, hplace, hfiles, placed]

theorem read_eq_ok_iff : d.read path = .ok content ↔
    ∃ p, d.locate path = .ok p ∧ Entries.find? p d.files = some content := by
  rw [read, bind_eq_ok_iff]
  refine exists_congr fun p => and_congr_right fun _ => ?_
  cases Entries.find? p d.files with
  | none => simp [throw, throwThe, MonadExceptOf.throw]
  | some c => simp [pure, Except.pure]

theorem keys_placed (d : Disk) (files : List (Path × List UInt8)) :
    Entries.keys (d.placed files) = files.map fun f => d.placeOf f.1 := by
  rw [placed, Entries.keys, List.map_map]
  rfl

/-- All paths hold what was written exactly if no two of them lead to one place with different
contents. -/
theorem forall_read_iff (h : d.writeEach files = .ok d') :
    (∀ f ∈ files, d'.read f.1 = .ok f.2) ↔
      ∀ f ∈ files, ∀ g ∈ files, d'.placeOf f.1 = d'.placeOf g.1 → f.2 = g.2 := by
  obtain ⟨hlocated, hfiles⟩ := writeEach_eq_ok h
  have hread : ∀ f ∈ files, d'.read f.1 = .ok f.2 ↔
      Entries.find? (d'.placeOf f.1) (d'.placed files).reverse = some f.2 := by
    intro f hf
    have hk : d'.placeOf f.1 ∈ Entries.keys (d'.placed files).reverse := by
      rw [Entries.keys, List.map_reverse, List.mem_reverse, ← Entries.keys, keys_placed]
      exact List.mem_map_of_mem hf
    obtain ⟨v, hv⟩ := Option.ne_none_iff_exists'.mp fun hn => Entries.find?_eq_none_iff.mp hn hk
    have hfind : Entries.find? (d'.placeOf f.1) d'.files = some v := by
      rw [hfiles, Entries.find?_foldl_put, hv, Option.some_or]
    rw [hv, ← hfind, read_eq_ok_iff]
    simp only [hlocated f hf, Except.ok.injEq, exists_eq_left']
  have hone : (∀ e ∈ (d'.placed files).reverse,
      Entries.find? e.1 (d'.placed files).reverse = some e.2) ↔ _ :=
    Entries.forall_find?_eq_some_iff
  simp only [placed, List.mem_reverse, List.forall_mem_map] at hone
  exact (forall₂_congr hread).trans hone

/-- Every place to which none of the paths leads is as it was. -/
theorem find?_writeEach (h : d.writeEach files = .ok d') (hp : ∀ f ∈ files, d'.placeOf f.1 ≠ p) :
    Entries.find? p d'.files = Entries.find? p d.files := by
  have hn : Entries.find? p (d'.placed files).reverse = none := by
    refine Entries.find?_eq_none_iff.mpr fun hm => ?_
    rw [Entries.keys, List.map_reverse, List.mem_reverse, ← Entries.keys, keys_placed] at hm
    obtain ⟨f, hf, he⟩ := List.mem_map.mp hm
    exact hp f hf he
  rw [(writeEach_eq_ok h).2, Entries.find?_foldl_put, hn, Option.none_or]

theorem files_makeBelow (h : d.makeBelow p names = .ok d') : d'.files = d.files := by
  induction names generalizing d p with
  | nil =>
    cases h
    rfl
  | cons name names ih =>
    unfold makeBelow at h
    simp only at h
    split at h
    · cases h
    · split at h
      · cases h
      · exact (ih h).trans rfl

end RemoteBindings.Disk
