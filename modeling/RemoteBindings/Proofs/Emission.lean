import RemoteBindings.Proofs.Disk
import RemoteBindings.Proofs.Outcome
import RemoteBindings.Proofs.Results
import RemoteBindings.Proofs.Unescaped

/-!
# Generation as a whole

`emission?` says what a command line asks to be written, and for which target; it is nothing if the
generation fails before it writes. A generation is all or nothing (`AllOrNothing`) if it either ends
with the exit code 0 and has written just these files, or ends with another one and has written
none. Where writing does not fail, it is exactly if the line about the files can be shown and no two
of their names lead to one place, or if the files were there already (`allOrNothing_iff`). Writing
fails where a file has no place, and where its text holds a surrogate by itself (`WritesSucceed`),
which it does not if the descriptor is a JSON text without escapes
(`holdsNoSurrogate_of_isUnescaped`).
-/

namespace RemoteBindings.CommandLine

variable {s : Surroundings} {args : List String} {path : Path} {t : Target}
  {files : Entries String String} {before after : Disk} {o : Outcome} {today : String}

/-! ## What is to be written -/

/-- The bindings of a descriptor, if it is accepted and its models have no fault. -/
def bindings? (s : Surroundings) (path : Path) (classPrefix : String) : Option Bindings :=
  (loadFrom s path).toOption.bind fun service =>
    (bindService service classPrefix).toExcept.toOption

/-- The files that are generated for a target, if nothing fails on the way. -/
def rendered? (s : Surroundings) (path : Path) (t : Target) : Option (Entries String String) :=
  if t.directory.isPossible then
    (bindings? s path t.classPrefix).bind fun b => filesFor? s t b.models
  else none

/-- What a command line asks to be written and for which target, if nothing fails on the way. -/
def emission? (s : Surroundings) (args : List String) : Option (Target × Entries String String) :=
  match Request.ofArguments args with
  | .run .generate operand g => (settings? s).bind fun settings =>
    (rendered? s (Path.ofText operand) (targetOf s settings g)).map (targetOf s settings g, ·)
  | _ => none

/-- The contents of files by their paths. -/
def Target.contents (t : Target) (files : Entries String String) : List (Path × List UInt8) :=
  files.map fun f => (t.pathOf f.1, bytesOf f.2)

/-- Makes the directory of a target and writes the files. -/
def Target.save (t : Target) (files : Entries String String) (d : Disk) : Except DiskError Disk :=
  match d.makeDirectories t.directory with
  | .error e => .error e
  | .ok made => made.writeEach (t.contents files)

/-- The surroundings where another character is read for a surrogate by itself. -/
def Surroundings.reading (s : Surroundings) (c : Char) : Surroundings :=
  { s with surrogate := ⟨c⟩ }

/-- The files do not depend on what is read for a surrogate by itself, so they hold none. -/
def HoldsNoSurrogate (s : Surroundings) (args : List String) : Prop :=
  ∀ c ∈ ['\uFFFD', '\uFFFE'],
    (emission? (s.reading c) args).map Prod.snd = (emission? s args).map Prod.snd

instance : Decidable (HoldsNoSurrogate s args) :=
  inferInstanceAs (Decidable (∀ c ∈ ['\uFFFD', '\uFFFE'], _))

/-- What is to be written can be written: every file has its place, and all of its text a code in
UTF-8. -/
structure WritesSucceed (s : Surroundings) (args : List String) : Prop where
  saved : ∀ e ∈ emission? s args, (e.1.save e.2 s.disk).isOk = true
  encoded : HoldsNoSurrogate s args

instance : Decidable (WritesSucceed s args) :=
  decidable_of_iff ((∀ e ∈ emission? s args, (e.1.save e.2 s.disk).isOk = true) ∧
    HoldsNoSurrogate s args) ⟨fun h => ⟨h.1, h.2⟩, fun h => ⟨h.saved, h.encoded⟩⟩

/-- The line that is printed of the files can be shown. -/
def LineShows (t : Target) (today : String) (files : Entries String String) : Prop :=
  (Console.printed (emittedLine t today files)).isOk = true

instance : Decidable (LineShows t today files) := inferInstanceAs (Decidable (_ = true))

theorem bytesOf_inj {a b : String} : bytesOf a = bytesOf b ↔ a = b := by
  rw [bytesOf, bytesOf, Array.toList_inj, ← ByteArray.ext_iff]
  exact String.toByteArray_inj

/-! ## How a generation ends -/

theorem writeEach_of_save (h : t.save files before = .ok after) :
    ∃ made, before.makeDirectories t.directory = .ok made ∧
      made.writeEach (t.contents files) = .ok after := by
  unfold Target.save at h
  split at h
  · cases h
  · exact ⟨_, ‹_›, h⟩

theorem writeFiles_of_writeEach (h : o.disk.writeEach (t.contents files) = .ok after) :
    ∃ errors, writeFiles t o files = { o with disk := after, errors } := by
  induction files generalizing o with
  | nil =>
    cases h
    exact ⟨o.errors, rfl⟩
  | cons f files ih =>
    rw [Target.contents, List.map_cons, Disk.writeEach] at h
    cases hw : o.disk.write (t.pathOf f.1) (bytesOf f.2) with
    | error e => simp [hw] at h
    | ok disk =>
      simp only [hw] at h
      simp only [writeFiles, hw]
      exact ih h

theorem writeAll_of_save (hr : o.Running) (h : t.save files o.disk = .ok after) :
    (writeAll t today o files).disk = after ∧
      ((writeAll t today o files).exitCode = 0 ↔ LineShows t today files) := by
  obtain ⟨made, hm, hw⟩ := writeEach_of_save h
  obtain ⟨errors, hw⟩ := writeFiles_of_writeEach (o := { o with disk := made }) hw
  have hrun : ({ o with disk := after, errors } : Outcome).Running := ⟨hr.exitCode, hr.stop⟩
  simp only [writeAll, hm, hw]
  rw [if_neg (by simp [hr.stop])]
  exact ⟨Outcome.disk_print .., Outcome.exitCode_print (hrun.log ..) _⟩

theorem bindings?_eq_some_iff {classPrefix : String} {b : Bindings} :
    bindings? s path classPrefix = some b ↔ ∃ service, loadFrom s path = .ok service ∧
      (bindService service classPrefix).toExcept = .ok b := by
  simp only [bindings?, Option.bind_eq_some_iff, toOption_eq_some_iff]

theorem rendered?_eq_some_iff : rendered? s path t = some files ↔
    t.directory.isPossible = true ∧
      ∃ b, bindings? s path t.classPrefix = some b ∧ filesFor? s t b.models = some files := by
  simp only [rendered?, Option.ite_none_right_eq_some, Option.bind_eq_some_iff]

theorem runGenerate_of_rendered (h : rendered? s path t = some files) :
    ∃ o, o.Running ∧ o.disk = s.disk ∧ runGenerate s path t = writeAll t s.today o files := by
  obtain ⟨hp, b, hb, hf⟩ := rendered?_eq_some_iff.mp h
  obtain ⟨service, hl, hb⟩ := bindings?_eq_some_iff.mp hb
  simp only [runGenerate, hp, hl, hb, hf, Bool.not_true, Bool.false_eq_true, if_false]
  exact ⟨_, ⟨rfl, rfl⟩, rfl, rfl⟩

theorem runGenerate_of_not_rendered (h : rendered? s path t = none) :
    (runGenerate s path t).exitCode = 1 ∧ (runGenerate s path t).disk = s.disk := by
  have hn : ∀ files, rendered? s path t ≠ some files := fun files hf => by simp [h] at hf
  unfold runGenerate
  simp only
  split
  · exact ⟨rfl, rfl⟩
  · rename_i hp
    cases hl : loadFrom s path with
    | error e => exact ⟨exitCode_endWith .., disk_endWith ..⟩
    | ok service =>
      simp only
      cases hb : (bindService service t.classPrefix).toExcept with
      | error f => exact ⟨exitCode_endWithFault .., disk_endWithFault ..⟩
      | ok b =>
        simp only
        cases hf : filesFor? s t b.models with
        | none => exact ⟨rfl, rfl⟩
        | some files =>
          have hb : bindings? s path t.classPrefix = some b :=
            bindings?_eq_some_iff.mpr ⟨service, hl, hb⟩
          exact absurd (rendered?_eq_some_iff.mpr ⟨by simpa using hp, b, hb, hf⟩) (hn files)

theorem emission?_eq_some_iff : emission? s args = some (t, files) ↔
    ∃ operand g settings, Request.ofArguments args = .run .generate operand g ∧
      settings? s = some settings ∧ targetOf s settings g = t ∧
      rendered? s (Path.ofText operand) t = some files := by
  unfold emission?
  split
  · rename_i operand g hr
    simp only [Option.bind_eq_some_iff, Option.map_eq_some_iff, Prod.mk.injEq, hr,
      Request.run.injEq, true_and]
    constructor
    · rintro ⟨settings, hs, _, hf, rfl, rfl⟩
      exact ⟨operand, g, settings, ⟨rfl, rfl⟩, hs, rfl, hf⟩
    · rintro ⟨_, _, settings, ⟨rfl, rfl⟩, hs, rfl, hf⟩
      exact ⟨settings, hs, files, hf, rfl, rfl⟩
  · rename_i hn
    simp only [reduceCtorEq, false_iff]
    rintro ⟨operand, g, settings, hr, -⟩
    exact hn operand g hr

theorem run_of_emission (h : emission? s args = some (t, files))
    (hs : t.save files s.disk = .ok after) :
    (run s args).disk = after ∧ ((run s args).exitCode = 0 ↔ LineShows t s.today files) := by
  obtain ⟨operand, g, settings, hg, hset, rfl, hr⟩ := emission?_eq_some_iff.mp h
  obtain ⟨o, ho, hd, hrun⟩ := runGenerate_of_rendered hr
  rw [(run_of_settings hset hg).1, (run_of_settings hset hg).2, runCommand, hrun]
  exact writeAll_of_save ho (hd ▸ hs)

/-- A command line that asks for a generation, if only wrongly. -/
def Request.isGeneration : Request → Bool
  | run .generate _ _ | wrong _ => true
  | _ => false

theorem run_of_no_emission (hg : (Request.ofArguments args).isGeneration = true)
    (h : emission? s args = none) : (run s args).exitCode ≠ 0 ∧ (run s args).disk = s.disk := by
  unfold emission? at h
  split at h
  · rename_i operand g hr
    cases hset : settings? s with
    | none =>
      obtain ⟨hc, hd⟩ := run_of_settings_eq_none hset hr
      exact ⟨hc ▸ Nat.one_ne_zero, hd⟩
    | some settings =>
      rw [hset] at h
      obtain ⟨hc, hd⟩ := runGenerate_of_not_rendered (Option.map_eq_none_iff.mp h)
      rw [(run_of_settings hset hr).1, (run_of_settings hset hr).2, runCommand, hc, hd]
      exact ⟨Nat.one_ne_zero, rfl⟩
  · rename_i hn
    cases hr : Request.ofArguments args with
    | wrong e => exact run_of_wrong hr
    | run c operand g =>
      cases c with
      | generate => exact absurd hr (hn operand g)
      | _ => simp [hr, Request.isGeneration] at hg
    | _ => simp [hr, Request.isGeneration] at hg

/-! ## Surrogates -/

/-- Where the same descriptor is read, the same is to be written. -/
theorem emission?_reading {c : Char}
    (h : ∀ operand g, Request.ofArguments args = .run .generate operand g →
      loadFrom (s.reading c) (Path.ofText operand) = loadFrom s (Path.ofText operand)) :
    emission? (s.reading c) args = emission? s args := by
  have hset : settings? (s.reading c) = settings? s := rfl
  unfold emission?
  split
  · rename_i operand g hr
    have hrendered (t : Target) :
        rendered? (s.reading c) (Path.ofText operand) t = rendered? s (Path.ofText operand) t := by
      rw [rendered?, rendered?, bindings?, bindings?, h operand g hr]
      rfl
    simp only [hset, hrendered]
    rfl
  · rfl

/-- No file holds a surrogate if the descriptor is a JSON text without escapes. -/
theorem holdsNoSurrogate_of_isUnescaped {operand : String} {g : Given}
    (hr : Request.ofArguments args = .run .generate operand g)
    (hp : (Path.ofText operand).hasEnding ".json" = true)
    (h : ∀ bytes ∈ (s.disk.read (s.directory.within (Path.ofText operand))).toOption,
      ∀ text ∈ (Descriptor.decodeText bytes).toOption, Json.IsUnescaped text.toList) :
    HoldsNoSurrogate s args := by
  intro c _
  rw [emission?_reading]
  rintro _ _ hr'
  obtain ⟨-, rfl, rfl⟩ := Request.run.inj (hr.symm.trans hr')
  calc loadFrom (s.reading c) (Path.ofText operand)
      = @Descriptor.load .replacement (Path.ofText operand) _ :=
        Descriptor.load_of_isUnescaped hp h
    _ = loadFrom s (Path.ofText operand) := (Descriptor.load_of_isUnescaped hp h).symm

/-! ## All or nothing -/

/-- Every entry has its content at its path, and no other file has changed. -/
structure HoldsEntries (t : Target) (files : Entries String String) (before after : Disk) :
    Prop where
  entries : ∀ f ∈ files, after.read (t.pathOf f.1) = .ok (bytesOf f.2)
  others : ∀ p, (∀ f ∈ files, after.locate (t.pathOf f.1) ≠ .ok p) →
    Entries.find? p after.files = Entries.find? p before.files

/-- No file is created or changed. -/
def SameFiles (before after : Disk) : Prop :=
  ∀ p, Entries.find? p after.files = Entries.find? p before.files

/-- What a generation leaves: all of its files, or with another exit code none. -/
def AllOrNothing (s : Surroundings) (args : List String) (o : Outcome) : Prop :=
  (o.exitCode = 0 ∧ ∃ t files, emission? s args = some (t, files) ∧
    HoldsEntries t files s.disk o.disk) ∨
  (o.exitCode ≠ 0 ∧ SameFiles s.disk o.disk)

/-- No two names lead to one place, unless with the same content. -/
def OneContentPerPlace (t : Target) (files : Entries String String) (d : Disk) : Prop :=
  ∀ f ∈ files, ∀ g ∈ files, d.placeOf (t.pathOf f.1) = d.placeOf (t.pathOf g.1) → f.2 = g.2

instance : Decidable (OneContentPerPlace t files after) :=
  inferInstanceAs (Decidable (∀ f ∈ files, ∀ g ∈ files, _ → f.2 = g.2))

/-- The path of every file leads to a place. -/
theorem locate_of_save (h : t.save files before = .ok after) :
    ∀ f ∈ files, after.locate (t.pathOf f.1) = .ok (after.placeOf (t.pathOf f.1)) := by
  obtain ⟨made, -, hw⟩ := writeEach_of_save h
  exact fun f hf => (Disk.writeEach_eq_ok hw).1 _ (List.mem_map_of_mem hf)

theorem holdsEntries_iff (h : t.save files before = .ok after) :
    HoldsEntries t files before after ↔ OneContentPerPlace t files after := by
  obtain ⟨made, hm, hw⟩ := writeEach_of_save h
  have hread := Disk.forall_read_iff hw
  simp only [Target.contents, List.forall_mem_map, bytesOf_inj] at hread
  refine ⟨fun hh => hread.mp hh.entries, fun hone => ⟨hread.mpr hone, fun p hp => ?_⟩⟩
  rw [Disk.find?_writeEach hw, Disk.files_makeBelow hm]
  refine List.forall_mem_map.mpr fun f hf he => ?_
  exact hp f hf (he ▸ locate_of_save h f hf)

theorem allOrNothing_of_no_emission (hg : (Request.ofArguments args).isGeneration = true)
    (he : emission? s args = none) : AllOrNothing s args (run s args) := by
  obtain ⟨hc, hd⟩ := run_of_no_emission hg he
  exact .inr ⟨hc, fun p => by rw [hd]⟩

theorem allOrNothing_of_emission (he : emission? s args = some (t, files))
    (hs : t.save files s.disk = .ok after) :
    AllOrNothing s args (run s args) ↔
      (LineShows t s.today files → OneContentPerPlace t files after) ∧
        (¬ LineShows t s.today files → SameFiles s.disk after) := by
  obtain ⟨hd, hc⟩ := run_of_emission he hs
  have hentries : (∃ t files, emission? s args = some (t, files) ∧
      HoldsEntries t files s.disk (run s args).disk) ↔ OneContentPerPlace t files after := by
    rw [hd, ← holdsEntries_iff hs]
    constructor
    · rintro ⟨t', files', he', hh⟩
      obtain ⟨rfl, rfl⟩ := Prod.mk.inj (Option.some.inj (he.symm.trans he'))
      exact hh
    · exact fun hh => ⟨t, files, he, hh⟩
  rw [AllOrNothing, hentries, ne_eq, hc, hd]
  by_cases hl : LineShows t s.today files <;> simp [hl]

/-- Where writing does not fail, a generation is all or nothing exactly if either the line about the
files can be shown and no two files go to one place with different contents, or the line cannot be
shown and all files were there already. -/
theorem allOrNothing_iff (hg : (Request.ofArguments args).isGeneration = true)
    (hw : WritesSucceed s args) :
    AllOrNothing s args (run s args) ↔ ∀ t files after, emission? s args = some (t, files) →
      t.save files s.disk = .ok after →
      (LineShows t s.today files → OneContentPerPlace t files after) ∧
        (¬ LineShows t s.today files → SameFiles s.disk after) := by
  obtain he | ⟨⟨t, files⟩, he⟩ := (emission? s args).eq_none_or_eq_some
  · simp only [he, reduceCtorEq, false_imp_iff, implies_true, iff_true]
    exact allOrNothing_of_no_emission hg he
  · obtain ⟨after, hs⟩ := isOk_iff.mp (hw.saved _ he)
    rw [allOrNothing_of_emission he hs]
    constructor
    · intro hall t' files' after' he' hs'
      obtain ⟨rfl, rfl⟩ := Prod.mk.inj (Option.some.inj (he.symm.trans he'))
      cases hs.symm.trans hs'
      exact hall
    · exact fun hall => hall t files after he hs

/-- Surroundings with a descriptor in the file `d.json`. -/
def withDescriptor (text : String) : Surroundings where
  environment := []
  directory := ⟨.single, ["work"]⟩
  disk := { files := [(["work", "d.json"], bytesOf text)], directories := [["work"]] }
  today := "2024-01-01"

def noteDescriptor : String :=
  "[\x7b\"name\": \"Note\", \"ctor\": \x7b\x7d, \"settings\": \x7b\"base\": \"Model\"\x7d\x7d]"

def noteGeneration : List String := ["generate", "d.json", "--prefix", "XX"]

theorem holdsNoSurrogate_note {args : List String} {g : Given}
    (hr : Request.ofArguments args = .run .generate "d.json" g) :
    HoldsNoSurrogate (withDescriptor noteDescriptor) args :=
  holdsNoSurrogate_of_isUnescaped hr (by decide +kernel) (by decide +kernel)

theorem allOrNothing_iff_note :
    (Request.ofArguments noteGeneration).isGeneration = true ∧
      WritesSucceed (withDescriptor noteDescriptor) noteGeneration ∧
      AllOrNothing (withDescriptor noteDescriptor) noteGeneration
        (run (withDescriptor noteDescriptor) noteGeneration) := by
  have hr : Request.ofArguments noteGeneration =
      .run .generate "d.json" {options := [(prefixSwitch, "XX")], operands := ["d.json"]} := by
    decide +kernel
  have hg : (Request.ofArguments noteGeneration).isGeneration = true := by rw [hr]; rfl
  have hsaved : ∀ e ∈ emission? (withDescriptor noteDescriptor) noteGeneration,
      (e.1.save e.2 (withDescriptor noteDescriptor).disk).isOk = true ∧
        LineShows e.1 "2024-01-01" e.2 ∧
        ∀ after ∈ (e.1.save e.2 (withDescriptor noteDescriptor).disk).toOption,
          OneContentPerPlace e.1 e.2 after := by decide +kernel
  have hw : WritesSucceed (withDescriptor noteDescriptor) noteGeneration :=
    ⟨fun e he => (hsaved e he).1, holdsNoSurrogate_note hr⟩
  refine ⟨hg, hw, (allOrNothing_iff hg hw).mpr fun t files after he hs => ?_⟩
  obtain ⟨-, hl, hone⟩ := hsaved _ he
  exact ⟨fun _ => hone after (toOption_eq_some_iff.mpr hs), fun hn => absurd hl hn⟩

def bracketGeneration : List String := ["generate", "d.json", "--out", "o[/]"]

/-- The directory is no text for the console, so a generation that has written all of its files
ends with the exit code 1. -/
theorem not_allOrNothing :
    WritesSucceed (withDescriptor noteDescriptor) bracketGeneration ∧
      ¬ AllOrNothing (withDescriptor noteDescriptor) bracketGeneration
        (run (withDescriptor noteDescriptor) bracketGeneration) := by
  have hr : Request.ofArguments bracketGeneration =
      .run .generate "d.json" {options := [(outSwitch, "o[/]")], operands := ["d.json"]} := by
    decide +kernel
  refine ⟨⟨by decide +kernel, holdsNoSurrogate_note hr⟩, ?_⟩
  have hrun : (run (withDescriptor noteDescriptor) bracketGeneration).exitCode = 1 ∧
      (Entries.find? ["work", "o[", "]", "Note.h"]
        (run (withDescriptor noteDescriptor) bracketGeneration).disk.files).isSome = true := by
    decide +kernel
  rintro (⟨h0, -⟩ | ⟨-, hsame⟩)
  · rw [hrun.1] at h0
    cases h0
  · rw [hsame] at hrun
    exact absurd hrun.2 (by decide +kernel)

end RemoteBindings.CommandLine
