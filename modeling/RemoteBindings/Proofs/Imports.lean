import RemoteBindings.Proofs.FileMap
import RemoteBindings.Proofs.FirstOccurrence

/-!
# Imports of repositories

The source of a repository imports the classes that its model references, in the order in which they
come up (`pairwise_idxOf_referencedClasses`). A callback that receives an instance of another class
goes through the repository of that class: only a generated class other than the own one is returned
in this way, so it is imported (`mem_referencedClasses_of_foreignModel`), and the imported files are
among those of the service (`referencesGenerated_of_bindService`).
-/

namespace RemoteBindings

namespace ObjC

variable {r : Registry} {model : Model} {generated : List String} {cls type : String}

/-- Whether a class comes up in a model: as a neighbour, as a return type or as the class of an
argument. -/
def Mentions (model : Model) (cls : String) : Prop :=
  cls ∈ model.includes ∨ ∃ s ∈ model.selectors,
    s.returnType = cls ∨ ∃ a ∈ s.arguments, a.type = pointer cls

/-- Whether a text is part of another one. -/
def Occurs (part text : String) : Prop := ∃ before after, text = before ++ part ++ after

/-- The imports of a model are in order among the files of a service. -/
structure ReferencesGenerated (generated : List String) (files : Entries String String)
    (model : Model) : Prop where
  nodup : (referencedClasses generated model).Nodup
  mem_iff : ∀ cls, cls ∈ referencedClasses generated model ↔
    cls ∈ generated ∧ cls ≠ model.className ∧ Mentions model cls
  /-- The class that comes up first stands first. -/
  inOrder : (referencedClasses generated model).Pairwise fun cls cls' =>
    (mentioned model).idxOf cls < (mentioned model).idxOf cls'
  hasFiles : ∀ cls ∈ referencedClasses generated model,
    cls ++ ".h" ∈ files.keys ∧ cls ++ "Repository.h" ∈ files.keys
  imported : ∀ cls ∈ referencedClasses generated model,
    Occurs (lines [importLine (cls ++ ".h"), importLine (cls ++ "Repository.h")])
      (repositorySource (referencedClasses generated model) model)
  /-- The class whose repository a callback needs is imported. -/
  foreign : ∀ s ∈ model.selectors, s.returnKind = .foreignModel →
    s.returnType ∈ referencedClasses generated model

/-! ## Classes that come up -/

theorem pointedClass?_eq_some_iff : pointedClass? type = some cls ↔ type = pointer cls := by
  refine ⟨fun h => ?_, fun h => h ▸ pointedClass?_pointer cls⟩
  unfold pointedClass? Text.beforeEnd? at h
  split at h
  · rename_i hs
    obtain ⟨front, hf⟩ := List.isSuffixOf_iff_suffix.mp hs
    have hl : type.length - " *".length = front.length := by
      rw [← String.length_toList, ← String.length_toList, ← hf, List.length_append,
        Nat.add_sub_cancel]
    rw [hl, ← hf, List.take_left] at h
    cases h
    have hp : (pointer (String.ofList front)).toList = front ++ " *".toList := by
      rw [pointer, String.toList_append, String.toList_ofList]
    rw [← String.toList_inj, ← hf, hp]
  · cases h

theorem mem_mentioned_iff : cls ∈ mentioned model ↔ Mentions model cls := by
  simp only [mentioned, Mentions, List.mem_append, List.mem_flatMap, List.mem_cons,
    List.mem_filterMap, pointedClass?_eq_some_iff, eq_comm (a := cls)]

theorem referencedClasses_eq :
    referencedClasses generated model =
      ((mentioned model).filter fun c => generated.contains c && c != model.className).eraseDups :=
  foldl_unlessPresent_eq (fun c => generated.contains c && c != model.className) (mentioned model)

theorem pairwise_idxOf_referencedClasses :
    (referencedClasses generated model).Pairwise fun cls cls' =>
      (mentioned model).idxOf cls < (mentioned model).idxOf cls' := by
  rw [referencedClasses_eq]
  exact pairwise_idxOf_eraseDups_filter _ _

/-- What is taken for another model is neither a type of the library nor the own class. -/
theorem returnKindOf_eq_foreignModel_iff :
    returnKindOf type cls = .foreignModel ↔ type ∉ libraryReturnTypes ∧ type ≠ cls := by
  rw [mem_libraryReturnTypes_iff, ← List.contains_iff_mem]
  unfold returnKindOf
  split_ifs <;> simp_all [returnTypes]

/-! ## Import lines -/

theorem Occurs.append_right {part text : String} (h : Occurs part text) (after : String) :
    Occurs part (text ++ after) := by
  obtain ⟨before, rest, rfl⟩ := h
  exact ⟨before, rest ++ after, String.append_assoc⟩

theorem Occurs.append_left {part text : String} (h : Occurs part text) (before : String) :
    Occurs part (before ++ text) := by
  obtain ⟨rest, after, rfl⟩ := h
  exact ⟨before ++ rest, after, by simp only [String.append_assoc]⟩

theorem lines_append (ls ls' : List String) : lines (ls ++ ls') = lines ls ++ lines ls' := by
  rw [lines, List.map_append, String.join_append, lines, lines]

theorem occurs_lines_flatMap {f : String → List String} {forward : List String}
    (h : cls ∈ forward) : Occurs (lines (f cls)) (lines (forward.flatMap f)) := by
  obtain ⟨front, back, rfl⟩ := List.append_of_mem h
  refine ⟨lines (front.flatMap f), lines (back.flatMap f), ?_⟩
  rw [List.flatMap_append, List.flatMap_cons, lines_append, lines_append, String.append_assoc]

/-- The source of a repository imports the header of each referenced class and of its repository. -/
theorem occurs_repositorySource {forward : List String} (h : cls ∈ forward) :
    Occurs (lines [importLine (cls ++ ".h"), importLine (cls ++ "Repository.h")])
      (repositorySource forward model) := by
  have himports := (occurs_lines_flatMap h (f := fun cls =>
    [importLine (cls ++ ".h"), importLine (cls ++ "Repository.h")])).append_left
      (fileHead (model.repositoryName ++ ".m") model ++
        lines [importLine (model.repositoryName ++ ".h")])
  exact ((((himports.append_right _).append_right _).append_right _).append_right _).append_right _

end ObjC

open ObjC

variable {service : Descriptor.Service} {classPrefix : String} {b : Bindings} {e : String × Model}

/-- The class that a callback receives from another model is referenced. -/
theorem mem_referencedClasses_of_foreignModel
    (h : (bindService service classPrefix).toExcept = .ok b) (he : e ∈ b.models) {s : Selector}
    (hs : s ∈ e.2.selectors) (hk : s.returnKind = .foreignModel) :
    s.returnType ∈ referencedClasses (b.models.values.map Model.className) e.2 := by
  obtain ⟨m, -, ho⟩ := List.mem_flatMap.mp (selectors_of_bindService h he ▸ hs)
  obtain ⟨pass, -, ha⟩ := mem_overloads.mp ho
  obtain ⟨-, arguments, type, -, ht, -, hsel⟩ := attempt_selector ha
  have hret : s.returnType = type := by rw [hsel]; rfl
  have hkind : returnKindOf type e.2.className = .foreignModel := by rw [← hk, hsel]; rfl
  obtain ⟨hlibrary, hown⟩ := returnKindOf_eq_foreignModel_iff.mp hkind
  rcases returnType?_cases ht with hl | hc | ⟨n, hn, hc⟩
  · exact absurd hl hlibrary
  · exact absurd hc hown
  · refine mem_referencedClasses.mpr ⟨mem_mentioned_of_returnType hs, ?_, hret ▸ hown⟩
    rw [hret, hc, classNames_of_bindService h]
    exact List.mem_map_of_mem hn

/-- The imports of every model of a service are in order among its files. -/
theorem referencesGenerated_of_bindService
    (h : (bindService service classPrefix).toExcept = .ok b) (he : e ∈ b.models) :
    ∃ files, (generate service classPrefix).toExcept = .ok files ∧
      ReferencesGenerated (b.models.values.map Model.className) files e.2 := by
  refine ⟨_, generate_of_bindService h, nodup_referencedClasses, fun cls => ?_,
    pairwise_idxOf_referencedClasses, fun cls hc => ?_, fun cls hc => occurs_repositorySource hc,
    fun s hs hk => mem_referencedClasses_of_foreignModel h he hs hk⟩
  · rw [mem_referencedClasses, mem_mentioned_iff]
    tauto
  · have hg := (mem_referencedClasses.mp hc).2.1
    rw [renderFiles, Entries.mem_keys_ofList, Entries.mem_keys_ofList, keys_writtenFiles]
    exact ⟨header_mem_laterNames.mpr (.inl hg), repositoryHeader_mem_laterNames.mpr (.inl hg)⟩

/-- A note returns its tag, and the tag is imported. -/
theorem referencesGenerated_of_bindService_tag :
    ∃ service, Descriptor.build (.list [
        rawClass "Note" [(.text "methods", .list [.map [(.text "name", .text "label"),
          (.text "returns", .list [.map [(.text "arg", .text "tag"),
            (.text "type", .text "tag")]])]])],
        rawClass "Tag" []]) = .ok service ∧
      ∃ b, (bindService service "").toExcept = .ok b ∧ ∃ e ∈ b.models,
        (e.1 = "Note" ∧ ∃ s ∈ e.2.selectors, s.returnKind = .foreignModel ∧ s.returnType = "Tag") ∧
        ∃ files, (generate service "").toExcept = .ok files ∧
          ReferencesGenerated (b.models.values.map Model.className) files e.2 := by
  have h : ∃ service, Descriptor.build (.list [
        rawClass "Note" [(.text "methods", .list [.map [(.text "name", .text "label"),
          (.text "returns", .list [.map [(.text "arg", .text "tag"),
            (.text "type", .text "tag")]])]])],
        rawClass "Tag" []]) = .ok service ∧
      ∃ b, (bindService service "").toExcept = .ok b ∧ ∃ e ∈ b.models,
        e.1 = "Note" ∧ ∃ s ∈ e.2.selectors, s.returnKind = .foreignModel ∧
          s.returnType = "Tag" := by
    decide +kernel
  obtain ⟨service, hs, b, hb, e, he, hnote⟩ := h
  exact ⟨service, hs, b, hb, e, he, hnote, referencesGenerated_of_bindService hb he⟩

end RemoteBindings
