import RemoteBindings.Proofs.PlainTarget

/-!
# Inspection and generation

`inspect` and `generate` make the same bindings of a descriptor. What `inspect` prints of them holds
names of the descriptor, which are read as markup, so it ends with the exit code 0 exactly if every
piece can be shown (`exitCode_runInspect`). For a plain target `generate` ends with 0 as soon as
there are bindings (`exitCode_runGenerate`). So the two commands accept the same descriptors exactly
as far as what is printed can be shown (`inspect_iff_generate`), as it can where no bracket is
printed (`canBeShown_of_unbracketed`).
-/

namespace RemoteBindings.CommandLine

variable {s : Surroundings} {args args' : List String} {path : Path} {t : Target} {d : Date}
  {classPrefix operand : String} {g g' : Given}

/-- Every piece that is printed of some bindings can be shown. -/
def CanBeShown (b : Bindings) : Prop := ∀ piece ∈ inspection b, piece.printed.isOk = true

instance (b : Bindings) : Decidable (CanBeShown b) :=
  inferInstanceAs (Decidable (∀ piece ∈ inspection b, _))

/-! ## What can be shown -/

/-- The texts of a piece. -/
def Piece.texts : Piece → List String
  | line s => [s]
  | table t => t.flatMap fun c => c.title :: c.cells

/-- What is printed of a model holds no bracket, but for the tags around its class. -/
structure Unbracketed (r : Registry) (m : Model) : Prop where
  className : '[' ∉ m.className.toList
  baseClass : '[' ∉ m.baseClass.toList
  name : '[' ∉ m.name.toList
  pluralName : '[' ∉ m.pluralName.toList
  others : ∀ piece ∈ (modelPieces r m).tail, ∀ text ∈ piece.texts, '[' ∉ text.toList

theorem canShow_titleLine {r : Registry} {m : Model} (h : Unbracketed r m) :
    Console.CanShow (titleLine m) := by
  have htitle : (titleLine m).toList = Console.boldLine m.className.toList (" : ".toList ++
      m.baseClass.toList ++ "  (model ".toList ++ m.name.toList ++ ", /".toList ++
      m.pluralName.toList ++ ")".toList) := by
    simp [titleLine, Console.boldLine, Console.boldName, String.toList_append]
  refine Console.canShow_boldLine htitle h.className ?_
  simp only [List.mem_append, h.baseClass, h.name, h.pluralName, or_false]
  decide

theorem isOk_printed_of_texts {piece : Piece} (h : ∀ text ∈ piece.texts, '[' ∉ text.toList) :
    piece.printed.isOk = true := by
  cases piece with
  | line s => exact Console.isOk_printed (Console.canShow_of_not_mem (h s List.mem_cons_self))
  | table t =>
    have hcolumn : ∀ c ∈ t, ∀ text ∈ c.title :: c.cells, Console.CanShow text :=
      fun c hc text ht => Console.canShow_of_not_mem (h text (List.mem_flatMap.mpr ⟨c, hc, ht⟩))
    exact Console.isOk_tablePrinted fun c hc => List.forall_mem_cons.mp (hcolumn c hc)

/-- Where nothing that is printed of the models holds a bracket, all of it can be shown. -/
theorem canBeShown_of_unbracketed {b : Bindings}
    (h : ∀ m ∈ b.models.values, Unbracketed b.registry m) : CanBeShown b := by
  intro piece hp
  obtain ⟨m, hm, hp⟩ := List.mem_flatMap.mp hp
  have hm := h m hm
  have htitle : modelPieces b.registry m =
      .line (titleLine m) :: (modelPieces b.registry m).tail := rfl
  rw [htitle] at hp
  rcases List.mem_cons.mp hp with rfl | hp
  · exact Console.isOk_printed (canShow_titleLine hm)
  · exact isOk_printed_of_texts (hm.others piece hp)

/-! ## The two commands -/

theorem exitCode_runInspect : (runInspect s path classPrefix).exitCode = 0 ↔
    ∃ b, bindings? s path classPrefix = some b ∧ CanBeShown b := by
  simp only [bindings?_eq_some_iff]
  unfold runInspect
  cases hl : loadFrom s path with
  | error e => simp [exitCode_endWith]
  | ok service =>
    simp only
    cases hb : (bindService service classPrefix).toExcept with
    | error f => simp [hb, exitCode_endWithFault]
    | ok b =>
      simp only [Except.ok.injEq, exists_eq_left', hb]
      exact exitCode_printAll ⟨rfl, rfl⟩ _

/-- For a plain target, a generation ends well if there are bindings. -/
theorem exitCode_runGenerate (hp : t.Plain) (hd : s.today = d.display)
    (hw : ∀ files ∈ rendered? s path t, (t.save files s.disk).isOk = true) :
    (runGenerate s path t).exitCode = 0 ↔ ∃ b, bindings? s path t.classPrefix = some b := by
  constructor
  · intro h0
    obtain hn | ⟨files, hf⟩ := (rendered? s path t).eq_none_or_eq_some
    · rw [(runGenerate_of_not_rendered hn).1] at h0
      cases h0
    · obtain ⟨-, b, hb, -⟩ := rendered?_eq_some_iff.mp hf
      exact ⟨b, hb⟩
  · rintro ⟨b, hb⟩
    have hf : rendered? s path t = some (ObjC.renderFiles b.models) :=
      rendered?_eq_some_iff.mpr ⟨hp.possible, b, hb, by rw [filesFor?, hp.templates]⟩
    obtain ⟨after, hs⟩ := isOk_iff.mp (hw _ hf)
    obtain ⟨o, ho, hdisk, hrun⟩ := runGenerate_of_rendered hf
    rw [hrun]
    exact (writeAll_of_save ho (hdisk ▸ hs)).2.mpr (lineShows_of_plain hd hp)

/-- For a plain target to which writing does not fail, `inspect` and `generate` end with 0 for the
same descriptor and prefix exactly if what `inspect` prints of the bindings, if there are any, can be
shown. -/
theorem inspect_iff_generate (hi : Request.ofArguments args = .run .inspect operand g)
    (hg : Request.ofArguments args' = .run .generate operand g')
    (hsame : ∀ settings ∈ settings? s,
      (targetOf s settings g).classPrefix = (targetOf s settings g').classPrefix)
    (hplain : ∀ settings ∈ settings? s, (targetOf s settings g').Plain)
    (hd : s.today = d.display) (hw : WritesSucceed s args') :
    ((run s args).exitCode = 0 ↔ (run s args').exitCode = 0) ↔
      ∀ settings ∈ settings? s, ∀ b ∈ bindings? s (Path.ofText operand)
        (targetOf s settings g').classPrefix, CanBeShown b := by
  obtain hn | ⟨settings, hs⟩ := (settings? s).eq_none_or_eq_some
  · rw [(run_of_settings_eq_none hn hi).1, (run_of_settings_eq_none hn hg).1]
    simp [hn]
  · have hgen : (run s args').exitCode = 0 ↔ ∃ b, bindings? s (Path.ofText operand)
        (targetOf s settings g').classPrefix = some b := by
      rw [(run_of_settings hs hg).1]
      refine exitCode_runGenerate (hplain settings hs) hd fun files hf => ?_
      exact hw.saved _ (emission?_eq_some_iff.mpr ⟨operand, g', settings, hg, hs, rfl, hf⟩)
    have hins : (run s args).exitCode = 0 ↔ ∃ b, bindings? s (Path.ofText operand)
        (targetOf s settings g').classPrefix = some b ∧ CanBeShown b := by
      rw [(run_of_settings hs hi).1, ← hsame settings hs]
      exact exitCode_runInspect
    rw [hgen, hins, hs]
    simp only [Option.mem_def, Option.some.injEq, forall_eq']
    constructor
    · intro h b hb
      obtain ⟨b', hb', hc⟩ := h.mpr ⟨b, hb⟩
      rw [hb, Option.some.injEq] at hb'
      exact hb' ▸ hc
    · exact fun h => ⟨fun ⟨b, hb, _⟩ => ⟨b, hb⟩, fun ⟨b, hb⟩ => ⟨b, hb, h b hb⟩⟩

theorem inspect_iff_generate_note :
    Request.ofArguments ["inspect", "d.json"] = .run .inspect "d.json" {operands := ["d.json"]} ∧
      Request.ofArguments ["generate", "d.json"] =
        .run .generate "d.json" {operands := ["d.json"]} ∧
      ((run (withDescriptor noteDescriptor) ["inspect", "d.json"]).exitCode = 0 ↔
        (run (withDescriptor noteDescriptor) ["generate", "d.json"]).exitCode = 0) := by
  have hi : Request.ofArguments ["inspect", "d.json"] =
      .run .inspect "d.json" {operands := ["d.json"]} := by decide +kernel
  have hg : Request.ofArguments ["generate", "d.json"] =
      .run .generate "d.json" {operands := ["d.json"]} := by decide +kernel
  have hs : settings? (withDescriptor noteDescriptor) = some (Settings.read [] none) := rfl
  have ht : (targetOf (withDescriptor noteDescriptor) (Settings.read [] none)
      {operands := ["d.json"]}).Plain := ⟨by decide +kernel, by decide +kernel, by decide +kernel⟩
  refine ⟨hi, hg, (inspect_iff_generate (d := ⟨2024, 1, 1⟩) hi hg (fun _ _ => rfl) ?_ ?_ ?_).mpr ?_⟩
  · intro settings hset
    rw [hs, Option.mem_some_iff] at hset
    exact hset ▸ ht
  · decide +kernel
  · exact ⟨by decide +kernel, holdsNoSurrogate_note hg⟩
  · decide +kernel

def bracketDescriptor : String :=
  "[\x7b\"name\": \"Note[/]\", \"ctor\": \x7b\x7d, \"settings\": \x7b\"base\": \"Model\"\x7d\x7d]"

/-- The name of a model is no text for the console, so it cannot be inspected, but files are
generated for it. -/
theorem not_inspect_iff_generate :
    WritesSucceed (withDescriptor bracketDescriptor) ["generate", "d.json"] ∧
      (run (withDescriptor bracketDescriptor) ["inspect", "d.json"]).exitCode = 1 ∧
      (run (withDescriptor bracketDescriptor) ["generate", "d.json"]).exitCode = 0 := by
  have hg : Request.ofArguments ["generate", "d.json"] =
      .run .generate "d.json" {operands := ["d.json"]} := by decide +kernel
  refine ⟨⟨by decide +kernel, ?_⟩, by decide +kernel⟩
  exact holdsNoSurrogate_of_isUnescaped hg (by decide +kernel) (by decide +kernel)

end RemoteBindings.CommandLine
