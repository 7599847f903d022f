import RemoteBindings.Proofs.Emission
import RemoteBindings.Proofs.FileMap
import RemoteBindings.Proofs.PlainText
import RemoteBindings.Proofs.Words

/-!
# Plain targets

A target is plain if its files are made by the templates of the program and its directory has no
bracket: then the line about the files can be shown (`lineShows_of_plain`). If also the class prefix
has no slash, the names of the files are names in the directory (`isFileName_of_mem_renderFiles`),
so that each has a place of its own (`oneContentPerPlace_of_plain`), and where writing does not fail
the generation is all or nothing (`allOrNothing_of_plain`).
-/

namespace RemoteBindings

/-! ## The line about the files -/

theorem isDigit_or_of_mem_display {d : Date} {c : Char} (h : c ∈ d.display.toList) :
    c.isDigit = true ∨ c = '-' := by
  have hpad {width n : Nat} (h : c ∈ (padZero width n).toList) : c.isDigit = true := by
    simp only [padZero, String.toList_append, String.toList_ofList, List.mem_append,
      List.mem_replicate] at h
    rcases h with ⟨-, rfl⟩ | h
    · rfl
    · exact Nat.isDigit_of_mem_toDigits (by decide) (by decide) (Nat.toList_repr ▸ h)
  simp only [Date.display, String.toList_append, List.mem_append] at h
  rcases h with (((h | h) | h) | h) | h
  · exact .inl (hpad h)
  · exact .inr (by simpa using h)
  · exact .inl (hpad h)
  · exact .inr (by simpa using h)
  · exact .inl (hpad h)

theorem startsTag_of_mem_display {d : Date} {c : Char} (h : c ∈ d.display.toList) :
    Console.startsTag c = false := by
  rcases isDigit_or_of_mem_display h with h | rfl
  · exact Text.forall_isAlphanum (p := fun c => c.isDigit = true → Console.startsTag c = false)
      (by decide) (Text.isAlphanum_of_isDigit h) h
  · rfl

namespace CommandLine

open ObjC (fileNames laterNames)

variable {s : Surroundings} {args : List String} {t : Target} {files : Entries String String}
  {d : Date}

/-- A target with the templates of the program and a directory without brackets. -/
structure Target.Plain (t : Target) : Prop where
  templates : t.templates = none
  possible : t.directory.isPossible = true
  directory : '[' ∉ t.directory.text.toList

theorem lineShows_of_plain (hd : s.today = d.display) (h : t.Plain) :
    LineShows t s.today files := by
  refine Console.isOk_printed (Console.canShow_of_opensNoTag ?_)
  have hline : (emittedLine t s.today files).toList = '[' :: (d.display.toList ++ "] ".toList ++
      (toString files.length).toList ++ " files emitted to: ".toList ++
        t.directory.text.toList) := by
    rw [emittedLine, datedLine, hd]
    simp [String.toList_append]
  have hcount : '[' ∉ (toString files.length).toList := fun hm =>
    absurd (Nat.isDigit_of_mem_toDigits (by decide) (by decide) (Nat.toList_repr ▸ hm)) (by decide)
  have hdate : '[' ∉ d.display.toList := fun hm => by
    rcases isDigit_or_of_mem_display hm with h | h <;> exact absurd h (by decide)
  rw [hline]
  refine Console.opensNoTag_bracket ?_ fun c hc => ?_
  · simp only [List.mem_append, hdate, hcount, h.directory, or_false, false_or]
    decide
  · have hne : d.display.toList ≠ [] := by simp [Date.display, String.toList_append]
    simp only [List.append_assoc, List.head?_append_of_ne_nil _ hne] at hc
    exact startsTag_of_mem_display (List.mem_of_mem_head? hc)

/-! ## The files -/

/-- With the templates of the program, the files are the generated map. -/
theorem rendered?_eq_some_iff_generate {path : Path} (ht : t.templates = none) :
    rendered? s path t = some files ↔ t.directory.isPossible = true ∧
      ∃ service, loadFrom s path = .ok service ∧
        (generate service t.classPrefix).toExcept = .ok files := by
  rw [rendered?_eq_some_iff]
  refine and_congr_right fun _ => ?_
  simp only [bindings?_eq_some_iff, filesFor?, ht, Option.some.injEq]
  constructor
  · rintro ⟨b, ⟨service, hl, hb⟩, rfl⟩
    exact ⟨service, hl, generate_of_bindService hb⟩
  · rintro ⟨service, hl, hg⟩
    have hf := ((Run.fault_bind _ _ _).mp (Run.toExcept_eq_ok_iff.mp hg).1).1
    have hb : (bindService service t.classPrefix).toExcept =
        .ok (bindService service t.classPrefix).result := Run.toExcept_eq_ok_iff.mpr ⟨hf, rfl⟩
    exact ⟨_, ⟨service, hl, hb⟩, Except.ok.inj ((generate_of_bindService hb).symm.trans hg)⟩

/-! ## Their names -/

/-- A name of a file in a directory. -/
structure IsFileName (name : String) : Prop where
  notPath : '/' ∉ name.toList
  ending : name.toList.getLast? = some 'h' ∨ name.toList.getLast? = some 'm'

theorem IsFileName.ne {name name' : String} (h : IsFileName name)
    (hn : name'.toList.getLast? ≠ some 'h' ∧ name'.toList.getLast? ≠ some 'm') : name ≠ name' := by
  rintro rfl
  exact h.ending.elim hn.1 hn.2

theorem ofText_fileName {name : String} (h : IsFileName name) :
    Path.ofText name = ⟨.relative, [name]⟩ := by
  have hslash : ∀ c ∈ name.toList, (c == '/') = false := fun c hc =>
    beq_eq_false_iff_ne.mpr fun he => h.notPath (he ▸ hc)
  have hroot : name.toList.takeWhile (· == '/') = [] := by
    cases hn : name.toList with
    | nil => rfl
    | cons c cs => simp [hslash c (hn ▸ List.mem_cons_self)]
  have hempty : name ≠ "" := h.ne (by decide)
  have hdot : name ≠ "." := h.ne (by decide)
  simp only [Path.ofText, Path.rootOf, hroot, Text.splitAtChars_of_forall hslash]
  simp [hempty, hdot]

theorem isFileName_of_mem_fileNames {cls name : String} (h : '/' ∉ cls.toList)
    (hn : name ∈ fileNames cls) : IsFileName name := by
  simp only [fileNames, List.mem_cons, List.not_mem_nil, or_false] at hn
  rcases hn with rfl | rfl | rfl | rfl <;>
    exact ⟨by simp [String.toList_append, h], by simp [String.toList_append]⟩

variable {service : Descriptor.Service} {b : Bindings}

/-- The files of a service are in one directory unless the class prefix is a path. -/
theorem isFileName_of_mem_renderFiles {classPrefix : String} (hp : '/' ∉ classPrefix.toList)
    (hb : (bindService service classPrefix).toExcept = .ok b) {f : String × String}
    (hf : f ∈ ObjC.renderFiles b.models) : IsFileName f.1 := by
  have hk : f.1 ∈ Entries.keys (ObjC.writtenFiles b.models.values) :=
    List.mem_map_of_mem (Entries.mem_of_mem_ofList hf)
  have hcls : b.registry.classPrefix = classPrefix := by
    rw [registry_of_bindService hb]
    rfl
  rw [ObjC.keys_writtenFiles, classNames_of_bindService hb, laterNames, List.mem_append,
    List.mem_singleton] at hk
  rcases hk with hk | hk
  · obtain ⟨cls, hc, hn⟩ := List.mem_flatMap.mp hk
    obtain ⟨n, -, rfl⟩ := List.mem_map.mp hc
    refine isFileName_of_mem_fileNames ?_ hn
    rw [className, hcls, String.toList_append, List.mem_append]
    rintro (h | h)
    · exact hp h
    · exact absurd (Text.isAlphanum_of_mem_pascalCase _ h) (by decide)
  · rw [hk]
    exact ⟨by decide +kernel, by decide +kernel⟩

/-! ## Plain targets -/

variable {path : Path}

theorem isFileName_of_rendered (ht : t.templates = none) (hp : '/' ∉ t.classPrefix.toList)
    (hr : rendered? s path t = some files) : ∀ f ∈ files, IsFileName f.1 := by
  obtain ⟨-, b, hb, hf⟩ := rendered?_eq_some_iff.mp hr
  obtain ⟨service, -, hb⟩ := bindings?_eq_some_iff.mp hb
  rw [filesFor?, ht, Option.some.injEq] at hf
  exact hf ▸ fun f hf => isFileName_of_mem_renderFiles hp hb hf

theorem nodup_keys_of_rendered (ht : t.templates = none)
    (hr : rendered? s path t = some files) : files.keys.Nodup := by
  obtain ⟨-, b, -, hf⟩ := rendered?_eq_some_iff.mp hr
  rw [filesFor?, ht, Option.some.injEq] at hf
  exact hf ▸ Entries.nodup_keys_foldl_put _ [] List.nodup_nil

/-- Each name in a directory has its own place. -/
theorem eq_of_placeOf_eq {disk : Disk} {a b : String} (ha : IsFileName a) (hb : IsFileName b)
    (hl : disk.locate (t.pathOf a) = .ok (disk.placeOf (t.pathOf a)))
    (hl' : disk.locate (t.pathOf b) = .ok (disk.placeOf (t.pathOf b)))
    (he : disk.placeOf (t.pathOf a) = disk.placeOf (t.pathOf b)) : a = b := by
  have hlast {name : String} {p : Place} (hn : IsFileName name)
      (h : disk.locate (t.pathOf name) = .ok p) : p.getLast? = some name := by
    simp only [Target.pathOf, ofText_fileName hn, Path.within, Disk.locate] at h
    split at h
    · exact Disk.getLast?_of_follow (hn.ne (by decide)) h
    · cases h
  exact Option.some.inj ((hlast ha hl).symm.trans (he ▸ hlast hb hl'))

theorem oneContentPerPlace_of_plain {before after : Disk} (hn : ∀ f ∈ files, IsFileName f.1)
    (hk : files.keys.Nodup) (hs : t.save files before = .ok after) :
    OneContentPerPlace t files after := by
  intro f hf g hg he
  have hname : f.1 = g.1 := eq_of_placeOf_eq (hn f hf) (hn g hg) (locate_of_save hs f hf)
    (locate_of_save hs g hg) he
  have hf' : Entries.find? f.1 files = some f.2 := (Entries.find?_eq_some_iff hk).mpr hf
  have hg' : Entries.find? g.1 files = some g.2 := (Entries.find?_eq_some_iff hk).mpr hg
  exact Option.some.inj (hf'.symm.trans (hname ▸ hg'))

/-- Where writing does not fail, a generation for a plain target is all or nothing, unless the class
prefix is a path. -/
theorem allOrNothing_of_plain (hg : (Request.ofArguments args).isGeneration = true)
    (hw : WritesSucceed s args) (hd : s.today = d.display)
    (hp : ∀ e ∈ emission? s args, e.1.Plain ∧ '/' ∉ e.1.classPrefix.toList) :
    AllOrNothing s args (run s args) := by
  obtain he | ⟨⟨t, files⟩, he⟩ := (emission? s args).eq_none_or_eq_some
  · exact allOrNothing_of_no_emission hg he
  · obtain ⟨after, hs⟩ := isOk_iff.mp (hw.saved _ he)
    obtain ⟨operand, g, settings, -, -, -, hr⟩ := emission?_eq_some_iff.mp he
    obtain ⟨hplain, hcls⟩ := hp _ he
    have hone : OneContentPerPlace t files after :=
      oneContentPerPlace_of_plain (isFileName_of_rendered hplain.templates hcls hr)
        (nodup_keys_of_rendered hplain.templates hr) hs
    exact (allOrNothing_of_emission he hs).mpr
      ⟨fun _ => hone, fun hn => absurd (lineShows_of_plain hd hplain) hn⟩

end CommandLine

end RemoteBindings
