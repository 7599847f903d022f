import Mathlib.Logic.Relation
import RemoteBindings.Proofs.Described

/-!
# Which classes are User models

`isUserModel` walks along the bases of a class. What one round of the walk does is `walkStep`, and
`walkStep_spec` has a case for each of its ends. The walk ends, for a round that goes on leaves a
name less to be passed (`exists_walk?`). A walk that ends without a User model has passed classes
that lead to one another only (`leadWithin_of_walk?`), so cutting it at the first class that comes
up again loses none: `isUserModel_iff` says that the answer is yes exactly if the chain of bases
reaches a class that is a User model by itself.
-/

namespace RemoteBindings

open Descriptor (ModelClass)

variable {byName : Entries String ModelClass} {seen names next : List String}
  {c d : ModelClass} {rounds : Nat}

/-- What makes a class a User model whatever it extends. -/
def SaysUser (c : ModelClass) : Prop :=
  c.isUser = true ∨ c.name = userModelName ∨ baseName? c = some userModelName

/-- The base of a class is the name of another. -/
def Extends (byName : Entries String ModelClass) (c d : ModelClass) : Prop :=
  ∃ base, baseName? c = some base ∧ Entries.find? base byName = some d

/-- One round of the walk: its answer, or the class that comes up next. -/
def walkStep (byName : Entries String ModelClass) (seen : List String) (c : ModelClass) :
    Bool ⊕ ModelClass :=
  if seen.contains c.name then .inl false
  else if c.isUser || c.name == userModelName then .inl true
  else match baseName? c with
    | none => .inl false
    | some base =>
      if base = userModelName then .inl true
      else match Entries.find? base byName with
        | none => .inl false
        | some d => .inr d

/-- The walk; it has no answer as long as the rounds do not suffice. -/
def walk? (byName : Entries String ModelClass) : Nat → List String → ModelClass → Option Bool
  | 0, _, _ => none
  | rounds + 1, seen, c =>
    match walkStep byName seen c with
    | .inl answer => some answer
    | .inr d => walk? byName rounds (c.name :: seen) d

/-- The classes of `names` are no User models by themselves, and they extend classes of `next`
only. -/
def LeadWithin (byName : Entries String ModelClass) (names next : List String) : Prop :=
  ∀ name ∈ names, ∃ c, Entries.find? name byName = some c ∧ ¬ SaysUser c ∧
    ∀ d, Extends byName c d → d.name ∈ next

/-! ## One round -/

/-- The ways in which a round may end. -/
inductive WalkStep (byName : Entries String ModelClass) (seen : List String) (c : ModelClass) :
    Bool ⊕ ModelClass → Prop
  | again (hs : c.name ∈ seen) : WalkStep byName seen c (.inl false)
  | user (hu : SaysUser c) : WalkStep byName seen c (.inl true)
  | top (hu : ¬ SaysUser c) (ht : ∀ d, ¬ Extends byName c d) : WalkStep byName seen c (.inl false)
  | up {d : ModelClass} (hs : c.name ∉ seen) (hu : ¬ SaysUser c) (hd : Extends byName c d) :
    WalkStep byName seen c (.inr d)

theorem walkStep_spec (byName : Entries String ModelClass) (seen : List String) (c : ModelClass) :
    WalkStep byName seen c (walkStep byName seen c) := by
  unfold walkStep
  split
  · rename_i hs
    exact .again (List.contains_iff_mem.mp hs)
  rename_i hs
  replace hs : c.name ∉ seen := fun h => hs (List.contains_iff_mem.mpr h)
  split
  · rename_i hu
    exact .user (by simpa [SaysUser, or_assoc] using Or.inl hu)
  rename_i hu
  have hiff : SaysUser c ↔ baseName? c = some userModelName := by
    simp only [Bool.or_eq_true, beq_iff_eq, not_or] at hu
    simp [SaysUser, hu]
  cases hb : baseName? c with
  | none => exact .top (by simp [hiff, hb]) (by simp [Extends, hb])
  | some base =>
    simp only
    split
    · rename_i huser
      exact .user (hiff.mpr (by rw [hb, huser]))
    rename_i huser
    replace huser : ¬ SaysUser c := by simpa [hiff, hb] using huser
    cases hf : Entries.find? base byName with
    | none => exact .top huser (by simp [Extends, hb, hf])
    | some d => exact .up hs huser ⟨base, hb, hf⟩

theorem reachesUser_eq (rounds : Nat) (seen : List String) (c : ModelClass) :
    reachesUser byName rounds seen c = (walk? byName rounds seen c).getD false := by
  induction rounds generalizing seen c with
  | zero => rfl
  | succ rounds ih =>
    simp only [reachesUser, walk?, walkStep]
    split
    · rfl
    split
    · rfl
    cases baseName? c with
    | none => rfl
    | some base =>
      simp only
      split
      · rfl
      cases Entries.find? base byName with
      | none => rfl
      | some d => exact ih _ _

/-! ## The walk -/

/-- A class that another extends is found under its own name. -/
theorem Extends.found (hk : ∀ e ∈ byName, e.2.name = e.1) (h : Extends byName c d) :
    Entries.find? d.name byName = some d := by
  obtain ⟨base, -, hf⟩ := h
  have hn : d.name = base := hk _ (Entries.mem_of_find? hf)
  rw [hn, hf]

theorem Extends.unique {d' : ModelClass} (h : Extends byName c d) (h' : Extends byName c d') :
    d = d' := by
  obtain ⟨base, hb, hf⟩ := h
  obtain ⟨base', hb', hf'⟩ := h'
  rw [hb, Option.some_inj] at hb'
  rw [← hb', hf, Option.some_inj] at hf'
  exact hf'

theorem walk?_of_mem (hs : c.name ∈ seen) : walk? byName (rounds + 1) seen c = some false := by
  rw [walk?, walkStep, if_pos (List.contains_iff_mem.mpr hs)]

/-- A walk is over as soon as no names are left and one class has come up again. -/
theorem exists_walk? (hk : ∀ e ∈ byName, e.2.name = e.1)
    (h : unseenCount byName (c.name :: seen) < rounds) :
    ∃ answer, walk? byName (rounds + 1) seen c = some answer := by
  induction rounds generalizing seen c with
  | zero => exact absurd h (Nat.not_lt_zero _)
  | succ rounds ih =>
    have hr := walkStep_spec byName seen c
    rw [walk?]
    generalize walkStep byName seen c = r at hr
    cases hr with
    | again _ => exact ⟨_, rfl⟩
    | user _ => exact ⟨_, rfl⟩
    | top _ _ => exact ⟨_, rfl⟩
    | @up d _ _ hd =>
      -- A name that comes up again ends the walk in the next round, and any other is a key.
      by_cases hs : d.name ∈ c.name :: seen
      · exact ⟨_, walk?_of_mem hs⟩
      · have hkey : d.name ∈ byName.keys :=
          List.mem_map_of_mem (f := Prod.fst) (Entries.mem_of_find? (hd.found hk))
        have hlt := unseenCount_cons_lt hkey hs
        exact ih (by omega)

/-- A walk that says yes has reached a User model. -/
theorem exists_of_walk? (h : walk? byName rounds seen c = some true) :
    ∃ d, Relation.ReflTransGen (Extends byName) c d ∧ SaysUser d := by
  induction rounds generalizing seen c with
  | zero => cases h
  | succ rounds ih =>
    have hr := walkStep_spec byName seen c
    rw [walk?] at h
    generalize walkStep byName seen c = r at hr h
    cases hr with
    | again _ => cases h
    | user hu => exact ⟨c, .refl, hu⟩
    | top _ _ => cases h
    | up _ _ hd =>
      obtain ⟨user, hreach, hu⟩ := ih h
      exact ⟨user, .head hd hreach, hu⟩

theorem LeadWithin.mono {next' : List String} (h : LeadWithin byName names next)
    (hn : next ⊆ next') : LeadWithin byName names next' := by
  intro name hname
  obtain ⟨c, hf, hu, hd⟩ := h name hname
  exact ⟨c, hf, hu, fun d he => hn (hd d he)⟩

theorem LeadWithin.cons (hc : Entries.find? c.name byName = some c) (hu : ¬ SaysUser c)
    (hd : ∀ d, Extends byName c d → d.name ∈ next) (h : LeadWithin byName names next) :
    LeadWithin byName (c.name :: names) next :=
  List.forall_mem_cons.mpr ⟨⟨c, hc, hu, hd⟩, h⟩

/-- The classes passed by a walk that says no lead to one another only. The invariant is that those
passed so far lead to one another or to the one that comes up now. -/
theorem leadWithin_of_walk? (hk : ∀ e ∈ byName, e.2.name = e.1)
    (h : walk? byName rounds seen c = some false) (hc : Entries.find? c.name byName = some c)
    (hs : LeadWithin byName seen (c.name :: seen)) :
    ∃ names, c.name :: seen ⊆ names ∧ LeadWithin byName names names := by
  induction rounds generalizing seen c with
  | zero => cases h
  | succ rounds ih =>
    have hr := walkStep_spec byName seen c
    rw [walk?] at h
    generalize walkStep byName seen c = r at hr h
    cases hr with
    | again hmem =>
      have hsub : c.name :: seen ⊆ seen := List.cons_subset.mpr ⟨hmem, List.Subset.refl seen⟩
      exact ⟨seen, hsub, hs.mono hsub⟩
    | user _ => cases h
    | top hu ht =>
      exact ⟨c.name :: seen, List.Subset.refl _, hs.cons hc hu fun d hd => absurd hd (ht d)⟩
    | @up d _ hu hd =>
      have hpassed : LeadWithin byName (c.name :: seen) (d.name :: c.name :: seen) := by
        refine (hs.mono (List.subset_cons_self _ _)).cons hc hu fun d' hd' => ?_
        rw [← hd.unique hd']
        exact List.mem_cons_self
      obtain ⟨names, hsub, hnames⟩ := ih h (hd.found hk) hpassed
      exact ⟨names, fun _ hn => hsub (List.mem_cons_of_mem _ hn), hnames⟩

/-- Classes that lead to one another only lead to no User model. -/
theorem LeadWithin.not_saysUser (hk : ∀ e ∈ byName, e.2.name = e.1)
    (h : LeadWithin byName names names) (hc : Entries.find? c.name byName = some c)
    (hn : c.name ∈ names) (hd : Relation.ReflTransGen (Extends byName) c d) : ¬ SaysUser d := by
  have hin : Entries.find? d.name byName = some d ∧ d.name ∈ names := by
    induction hd with
    | refl => exact ⟨hc, hn⟩
    | @tail d e _ he ih =>
      obtain ⟨d', hf, -, hwithin⟩ := h d.name ih.2
      rw [ih.1, Option.some_inj] at hf
      exact ⟨he.found hk, hwithin e (hf ▸ he)⟩
  obtain ⟨d', hf, hu, -⟩ := h d.name hin.2
  rw [hin.1, Option.some_inj] at hf
  rwa [hf]

/-- The walk from a class that is found under its name ends within one round more than there are
names, and it says yes exactly if the chain of bases reaches a User model. With distinct names this
is so for every class. -/
theorem isUserModel_iff (classes : List ModelClass) :
    ((classes.map ModelClass.name).Nodup →
      ∀ c ∈ classes, Entries.find? c.name (classesByName classes) = some c) ∧
    ∀ c, Entries.find? c.name (classesByName classes) = some c →
      walk? (classesByName classes) ((classesByName classes).length + 1) [] c =
          some (isUserModel (classesByName classes) c) ∧
        (isUserModel (classesByName classes) c = true ↔
          ∃ d, Relation.ReflTransGen (Extends (classesByName classes)) c d ∧ SaysUser d) := by
  refine ⟨fun hn c hc => find?_classesByName hn hc, fun c hc => ?_⟩
  have hk : ∀ e ∈ classesByName classes, e.2.name = e.1 := fun e he =>
    (name_of_mem_classesByName he).2
  have hrounds : unseenCount (classesByName classes) [c.name] < (classesByName classes).length :=
    calc unseenCount (classesByName classes) [c.name]
        < unseenCount (classesByName classes) [] :=
          unseenCount_cons_lt (List.mem_map_of_mem (f := Prod.fst) (Entries.mem_of_find? hc))
            List.not_mem_nil
      _ ≤ (classesByName classes).length := unseenCount_le _ _
  obtain ⟨answer, hw⟩ := exists_walk? hk hrounds
  have ha : isUserModel (classesByName classes) c = answer := by
    rw [isUserModel, reachesUser_eq, hw, Option.getD_some]
  rw [ha]
  refine ⟨hw, ?_⟩
  cases answer with
  | true => exact iff_of_true rfl (exists_of_walk? hw)
  | false =>
    obtain ⟨names, hsub, hnames⟩ := leadWithin_of_walk? hk hw hc (List.forall_mem_nil _)
    refine iff_of_false Bool.false_ne_true ?_
    rintro ⟨d, hd, hu⟩
    exact hnames.not_saysUser hk hc (hsub List.mem_cons_self) hd hu

/-- A class without methods that has the given base. -/
def derivedClass (name base : String) : ModelClass :=
  { plainClass name [] with settings := { Descriptor.Settings.default with base := .text base } }

/-- Two classes on a cycle, one that enters it, and a chain of two that comes to the User model. -/
theorem isUserModel_iff_of_cycle :
    let classes := [derivedClass "Heron" "Egret", derivedClass "Egret" "Heron",
      derivedClass "Chick" "Heron", derivedClass "Member" "User", derivedClass "Admin" "Member"]
    (classes.map ModelClass.name).Nodup ∧
      (¬ ∃ d, Relation.ReflTransGen (Extends (classesByName classes)) (derivedClass "Chick" "Heron")
        d ∧ SaysUser d) ∧
      ∃ d, Relation.ReflTransGen (Extends (classesByName classes)) (derivedClass "Admin" "Member")
        d ∧ SaysUser d := by
  intro classes
  have hn : (classes.map ModelClass.name).Nodup := by decide +kernel
  have hchick : isUserModel (classesByName classes) (derivedClass "Chick" "Heron") = false := by
    decide +kernel
  have hadmin : isUserModel (classesByName classes) (derivedClass "Admin" "Member") = true := by
    decide +kernel
  have hfound := (isUserModel_iff classes).1 hn
  have hiff := (isUserModel_iff classes).2
  refine ⟨hn, fun hd => ?_, ?_⟩
  · have htrue := ((hiff _ (hfound _ (by simp [classes]))).2).mpr hd
    exact Bool.false_ne_true (hchick.symm.trans htrue)
  · exact ((hiff _ (hfound _ (by simp [classes]))).2).mp hadmin

end RemoteBindings
