import Mathlib.Data.List.Lattice
import Mathlib.Data.List.Nodup
import Mathlib.Data.List.Pairwise
import RemoteBindings.Proofs.Files

/-!
# Files of a service

A generation writes four files for each model and one header that imports all of them. None of these
takes the name of another exactly if the names of the classes are apart (`nodup_laterNames_iff`): no
two are equal, none is the name of the repository of another, and none is that of the header. Then
the files are all in the map, and otherwise some are lost (`generate_keeps_iff`).
-/

namespace RemoteBindings

namespace ObjC

variable {cls c : String} {classes : List String}

/-- Classes of which no two write the same file, nor the header that imports all. -/
structure FilesApart (classes : List String) : Prop where
  nodup : classes.Nodup
  notRepository : ∀ c ∈ classes, c ++ "Repository" ∉ classes
  notAggregate : "LoopbackModelImport" ∉ classes

theorem source_mem_fileNames : cls ++ ".m" ∈ fileNames c ↔ c = cls ∨ c ++ "Repository" = cls := by
  have hh (s : String) : cls ++ ".m" ≠ s ++ ".h" :=
    append_ne_of_length_eq (by decide +kernel) (by decide +kernel)
  simp only [fileNames, repositoryHeaderName_eq, repositorySourceName_eq, List.mem_cons,
    List.not_mem_nil, hh, String.append_left_inj, or_false, false_or]
  exact or_congr eq_comm eq_comm

theorem aggregate_mem_fileNames : aggregateName ∈ fileNames c ↔ c = "LoopbackModelImport" := by
  have hn : aggregateName = "LoopbackModelImport" ++ ".h" := rfl
  have hr : c ++ "Repository" ≠ "LoopbackM" ++ "odelImport" :=
    append_ne_of_length_eq (by decide +kernel) (by decide +kernel)
  rw [hn, header_mem_fileNames]
  exact or_iff_left hr

theorem nodup_fileNames (c : String) : (fileNames c).Nodup := by
  simp only [fileNames, List.nodup_cons, List.mem_cons, List.not_mem_nil, String.append_right_inj]
  decide +kernel

theorem disjoint_fileNames_iff : List.Disjoint (fileNames c) (fileNames cls) ↔
    cls ≠ c ∧ cls ++ "Repository" ≠ c ∧ cls ≠ c ++ "Repository" := by
  have hl : List.Disjoint (fileNames c) (fileNames cls) ↔ ∀ n ∈ fileNames c, n ∉ fileNames cls :=
    Iff.rfl
  rw [hl, fileNames, repositoryHeaderName_eq, repositorySourceName_eq]
  simp only [List.forall_mem_cons, header_mem_fileNames, source_mem_fileNames,
    String.append_left_inj, List.not_mem_nil, false_imp_iff, implies_true, and_true]
  tauto

theorem append_repository_ne (c : String) : c ++ "Repository" ≠ c := by
  intro h
  have h := congrArg String.length h
  have hpos : 0 < "Repository".length := by decide +kernel
  rw [String.length_append] at h
  omega

/-- The files of some classes and the header that imports all have different names exactly if the
classes are apart. -/
theorem nodup_laterNames_iff : (laterNames classes).Nodup ↔ FilesApart classes := by
  rw [laterNames, List.nodup_append, List.nodup_flatMap]
  constructor
  · rintro ⟨⟨-, hp⟩, -, ha⟩
    have hsymm : Std.Symm (Function.onFun List.Disjoint fileNames) :=
      ⟨fun _ _ h => List.Disjoint.symm h⟩
    refine ⟨hp.imp fun h => (disjoint_fileNames_iff.mp h).1.symm, fun c hc hr => ?_, fun hm => ?_⟩
    · have hd := hp.forall hc hr (append_repository_ne c).symm
      exact (disjoint_fileNames_iff.mp hd).2.2 rfl
    · refine ha aggregateName (List.mem_flatMap.mpr ⟨_, hm, ?_⟩) _ List.mem_cons_self rfl
      exact aggregate_mem_fileNames.mpr rfl
  · rintro ⟨hn, hr, ha⟩
    refine ⟨⟨fun c _ => nodup_fileNames c, ?_⟩, List.nodup_singleton _, ?_⟩
    · refine hn.imp_of_mem fun {c cls} hc hcls hne => disjoint_fileNames_iff.mpr ⟨hne.symm, ?_, ?_⟩
      · rintro rfl
        exact hr _ hcls hc
      · rintro rfl
        exact hr _ hc hcls
    · rintro n hmem _ hn rfl
      obtain ⟨c, hc, hmem⟩ := List.mem_flatMap.mp hmem
      rw [List.mem_singleton.mp hn] at hmem
      exact ha (aggregate_mem_fileNames.mp hmem ▸ hc)

/-! ## Generated maps -/

variable {models : List Model}

theorem keys_writtenFiles (models : List Model) :
    Entries.keys (writtenFiles models) = laterNames (models.map Model.className) := by
  rw [writtenFiles, Entries.keys_append, Entries.keys, List.map_flatMap, laterNames,
    List.flatMap_map]
  exact congrArg (· ++ [aggregateName]) (List.flatMap_congr fun _ _ => keys_modelFiles)

theorem length_writtenFiles (models : List Model) :
    (writtenFiles models).length = 4 * models.length + 1 := by
  have h : (models.flatMap (modelFiles (models.map Model.className))).length =
      4 * models.length := by
    rw [List.length_flatMap]
    simp [modelFiles, Nat.mul_comm]
  rw [writtenFiles, List.length_append, h]
  rfl

end ObjC

open ObjC

variable {service : Descriptor.Service} {classPrefix : String} {b : Bindings}

theorem generate_of_bindService (h : (bindService service classPrefix).toExcept = .ok b) :
    (generate service classPrefix).toExcept = .ok (renderFiles b.models) := by
  obtain ⟨hf, rfl⟩ := Run.toExcept_eq_ok_iff.mp h
  refine Run.toExcept_eq_ok_iff.mpr ⟨(Run.fault_bind _ _ _).mpr ⟨hf, rfl⟩, ?_⟩
  rw [generate, Run.bind_of_fault_eq_none hf]
  rfl

/-- The files of a service are all in the map exactly if its classes are apart: then there are four
for each model and the header that imports all, and each holds what was written from its model. -/
theorem generate_keeps_iff (h : (bindService service classPrefix).toExcept = .ok b) :
    ∃ files, (generate service classPrefix).toExcept = .ok files ∧
      (files.length = 4 * b.models.length + 1 ↔
        FilesApart (b.models.values.map Model.className)) ∧
      (FilesApart (b.models.values.map Model.className) →
        ∀ e ∈ b.models, ∀ f ∈ modelFiles (b.models.values.map Model.className) e.2,
          Entries.find? f.1 files = some f.2) := by
  refine ⟨_, generate_of_bindService h, ?_, fun ha e he f hf => ?_⟩
  · have hl : b.models.length = b.models.values.length := (List.length_map _).symm
    rw [renderFiles, hl, ← length_writtenFiles, Entries.length_ofList_eq_iff, keys_writtenFiles,
      nodup_laterNames_iff]
  · have hn : (Entries.keys (writtenFiles b.models.values)).Nodup := by
      rwa [keys_writtenFiles, nodup_laterNames_iff]
    rw [renderFiles, Entries.ofList_of_nodup hn, Entries.find?_eq_some_iff hn]
    refine List.mem_append_left _ (List.mem_flatMap.mpr ⟨e.2, ?_, hf⟩)
    exact List.mem_map_of_mem he

/-- Two classes that are apart have nine files. -/
theorem generate_keeps_iff_note :
    ∃ service, Descriptor.build (.list [rawClass "Note" [], rawClass "Tag" []]) = .ok service ∧
      ∃ b, (bindService service "").toExcept = .ok b ∧
        ∃ files, (generate service "").toExcept = .ok files ∧
          (files.length = 4 * b.models.length + 1 ∧
            FilesApart (b.models.values.map Model.className)) ∧
          ∀ e ∈ b.models, ∀ f ∈ modelFiles (b.models.values.map Model.className) e.2,
            Entries.find? f.1 files = some f.2 := by
  have h : ∃ service, Descriptor.build (.list [rawClass "Note" [], rawClass "Tag" []]) =
      .ok service ∧ ∃ b, (bindService service "").toExcept = .ok b ∧
        b.models.values.map Model.className = ["Note", "Tag"] := by
    decide +kernel
  obtain ⟨service, hs, b, hb, hc⟩ := h
  obtain ⟨files, hf, hiff, hkeeps⟩ := generate_keeps_iff hb
  have ha : FilesApart (b.models.values.map Model.className) := by
    rw [hc]
    exact ⟨by decide +kernel, by decide +kernel, by decide +kernel⟩
  exact ⟨service, hs, b, hb, files, hf, ⟨hiff.mpr ha, ha⟩, hkeeps ha⟩

/-- Files are lost where two models have one class, where a class is named like the repository of
another, and where it is named like the header that imports all. -/
theorem files_lost :
    [["Note", "note"], ["Tag", "TagRepository"], ["LoopbackModelImport"]].Forall fun names =>
      ∃ service, Descriptor.build (.list (names.map (rawClass · []))) = .ok service ∧
        ∃ b, (bindService service "").toExcept = .ok b ∧ b.models.keys = names ∧
          ∃ files, (generate service "").toExcept = .ok files ∧
            files.length < 4 * b.models.length + 1 := by
  decide +kernel

end RemoteBindings
