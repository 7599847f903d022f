import Mathlib.Algebra.Order.BigOperators.Group.List
import Mathlib.Algebra.Order.Group.Nat
import Mathlib.Data.List.Perm.Subperm
import RemoteBindings.ObjC.Source
import RemoteBindings.Proofs.Declarations

/-!
# Files of a model

A class has four files (`fileNames`). Another class may write one of them as well: one of the same
name all four, and one that is named like its repository the two of the repository
(`repositoryHeader_mem_fileNames`, `header_mem_fileNames`). The header of a repository declares
every selector, so it changes when some are left out (`repositoryHeader_ne`).
-/

namespace RemoteBindings.ObjC

variable {model : Model} {generated : List String} {cls c : String}

def fileNames (cls : String) : List String :=
  [cls ++ ".h", cls ++ ".m", cls ++ "Repository.h", cls ++ "Repository.m"]

theorem keys_modelFiles : Entries.keys (modelFiles generated model) = fileNames model.className :=
  rfl

/-- The names of the files that are written after those of a model, when models of the given classes
come behind it. -/
def laterNames (classes : List String) : List String :=
  classes.flatMap fileNames ++ [aggregateName]

/-! ## Names -/

theorem append_ne_of_length_eq {s t a b : String} (hl : a.length = b.length) (h : a ≠ b) :
    s ++ a ≠ t ++ b := by
  intro he
  have he := congrArg String.toList he
  rw [String.toList_append, String.toList_append] at he
  rw [← String.length_toList, ← String.length_toList] at hl
  exact h (String.toList_inj.mp (List.append_inj' he hl).2)

theorem repositoryHeaderName_eq (cls : String) :
    cls ++ "Repository.h" = cls ++ "Repository" ++ ".h" := by
  rw [String.append_assoc]; rfl

theorem repositorySourceName_eq (cls : String) :
    cls ++ "Repository.m" = cls ++ "Repository" ++ ".m" := by
  rw [String.append_assoc]; rfl

theorem header_mem_fileNames : cls ++ ".h" ∈ fileNames c ↔ c = cls ∨ c ++ "Repository" = cls := by
  have hm (s : String) : cls ++ ".h" ≠ s ++ ".m" :=
    append_ne_of_length_eq (by decide +kernel) (by decide +kernel)
  simp only [fileNames, repositoryHeaderName_eq, repositorySourceName_eq, List.mem_cons,
    List.not_mem_nil, hm, String.append_left_inj, or_false, false_or]
  exact or_congr eq_comm eq_comm

theorem repositoryHeader_mem_fileNames :
    cls ++ "Repository.h" ∈ fileNames c ↔ c = cls ∨ c = cls ++ "Repository" := by
  rw [repositoryHeaderName_eq, header_mem_fileNames, String.append_left_inj]
  exact or_comm

/-- A class that writes the header of a repository writes its source as well. -/
theorem repositorySource_mem_fileNames (h : cls ++ "Repository.h" ∈ fileNames c) :
    cls ++ "Repository.m" ∈ fileNames c := by
  rcases repositoryHeader_mem_fileNames.mp h with rfl | rfl
  · simp [fileNames]
  · rw [repositorySourceName_eq]
    simp [fileNames]

/-- The repository of a class is written again by a later class of the same name, and by one that is
named like the repository. -/
theorem repositoryHeader_mem_laterNames {classes : List String} :
    cls ++ "Repository.h" ∈ laterNames classes ↔ cls ∈ classes ∨ cls ++ "Repository" ∈ classes := by
  have ha : cls ++ "Repository.h" ≠ aggregateName := by
    have hn : aggregateName = "LoopbackModel" ++ "Import.h" := rfl
    have hr : cls ++ "Repository.h" = cls ++ "Repo" ++ "sitory.h" := by
      rw [String.append_assoc]; rfl
    rw [hn, hr]
    exact append_ne_of_length_eq (by decide +kernel) (by decide +kernel)
  simp only [laterNames, List.mem_append, List.mem_flatMap, repositoryHeader_mem_fileNames,
    List.mem_singleton, ha, or_false]
  constructor
  · rintro ⟨c, hc, rfl | rfl⟩
    · exact .inl hc
    · exact .inr hc
  · rintro (h | h)
    · exact ⟨cls, h, .inl rfl⟩
    · exact ⟨_, h, .inr rfl⟩

theorem repositorySource_mem_laterNames {classes : List String}
    (h : cls ++ "Repository.h" ∈ laterNames classes) :
    cls ++ "Repository.m" ∈ laterNames classes := by
  rcases repositoryHeader_mem_laterNames.mp h with h | h
  · exact List.mem_append_left _ (List.mem_flatMap.mpr ⟨_, h,
      repositorySource_mem_fileNames (repositoryHeader_mem_fileNames.mpr (.inl rfl))⟩)
  · exact List.mem_append_left _ (List.mem_flatMap.mpr ⟨_, h,
      repositorySource_mem_fileNames (repositoryHeader_mem_fileNames.mpr (.inr rfl))⟩)

theorem header_mem_laterNames {classes : List String} :
    cls ++ ".h" ∈ laterNames classes ↔ cls ∈ classes ∨ (∃ c ∈ classes, c ++ "Repository" = cls) ∨
      cls = "LoopbackModelImport" := by
  have hn : aggregateName = "LoopbackModelImport" ++ ".h" := rfl
  simp only [laterNames, List.mem_append, List.mem_flatMap, header_mem_fileNames,
    List.mem_singleton, hn, String.append_left_inj]
  constructor
  · rintro (⟨c, hc, rfl | h⟩ | h)
    · exact .inl hc
    · exact .inr (.inl ⟨c, hc, h⟩)
    · exact .inr (.inr h)
  · rintro (h | ⟨c, hc, h⟩ | h)
    · exact .inl ⟨cls, h, .inl rfl⟩
    · exact .inl ⟨c, hc, .inr h⟩
    · exact .inr h

/-! ## Texts -/

theorem lines_cons (l : String) (ls : List String) : lines (l :: ls) = l ++ "\n" ++ lines ls := by
  rw [lines, List.map_cons, String.join_cons, lines]

/-- Forward declarations of more classes are no shorter. -/
theorem length_forward_le {fwd fwd' : List String} (hn : fwd'.Nodup) (hs : fwd' ⊆ fwd) :
    (lines (fwd'.map forwardLine)).length ≤ (lines (fwd.map forwardLine)).length := by
  obtain ⟨l, hp, hl⟩ := hn.subperm hs
  rw [lines, lines, String.length_join, String.length_join, List.map_map, List.map_map,
    List.map_map, List.map_map, ← (hp.map _).sum_nat]
  exact (hl.map _).sum_le_sum fun _ _ => Nat.zero_le _

/-- The header of a repository is longer by the declarations of the selectors in `dropped`. -/
theorem repositoryHeader_ne {fwd fwd' : List String} (hn : fwd'.Nodup) (hs : fwd' ⊆ fwd)
    {kept dropped : List Selector} (hp : (kept ++ dropped).Perm model.selectors)
    (hd : dropped ≠ []) (methods : List Method) (scopes : Entries String (Option Scope)) :
    repositoryHeader fwd model ≠
      repositoryHeader fwd' { model with methods, scopes, selectors := kept } := by
  obtain ⟨s, ss, rfl⟩ := List.exists_cons_of_ne_nil hd
  intro h
  have hl := congrArg String.length h
  have hf := length_forward_le hn hs
  have hj := ((hp.map selectorDeclaration).map String.length).sum_nat
  have hpos : 0 < (selectorDeclaration s).length := by
    rw [selectorDeclaration, lines_cons, String.length_append, String.length_append]
    exact Nat.lt_add_right _ (Nat.lt_add_left _ (by decide +kernel))
  rw [List.map_append, List.map_append, List.sum_append, List.map_cons, List.map_cons,
    List.sum_cons] at hj
  unfold repositoryHeader fileHead at hl
  simp only [String.length_append, String.length_join, ← hj] at hl
  omega

/-! ## Files that are written again -/

theorem find?_modelFiles (generated : List String) (model : Model) (k : String) :
    Entries.find? k (modelFiles generated model).reverse =
      if model.className ++ "Repository.m" = k then
        some (repositorySource (referencedClasses generated model) model)
      else if model.className ++ "Repository.h" = k then
        some (repositoryHeader (referencedClasses generated model) model)
      else if model.className ++ ".m" = k then some (modelSource model)
      else if model.className ++ ".h" = k then
        some (modelHeader (referencedClasses generated model) model)
      else none := by
  simp only [modelFiles, List.reverse_cons, List.reverse_nil, List.nil_append,
    List.cons_append, Entries.find?, beq_iff_eq]

/-- Which files of a model may not be written again for two texts of it to come to the same. -/
theorem forall_find?_modelFiles_iff {model' : Model} {names : List String}
    (hc : model.className = model'.className) (hs : modelSource model = modelSource model') :
    (∀ k ∉ names, Entries.find? k (modelFiles generated model).reverse =
        Entries.find? k (modelFiles generated model').reverse) ↔
      (model.className ++ ".h" ∉ names →
        modelHeader (referencedClasses generated model) model =
          modelHeader (referencedClasses generated model') model') ∧
      (model.className ++ "Repository.h" ∉ names →
        repositoryHeader (referencedClasses generated model) model =
          repositoryHeader (referencedClasses generated model') model') ∧
      (model.className ++ "Repository.m" ∉ names →
        repositorySource (referencedClasses generated model) model =
          repositorySource (referencedClasses generated model') model') := by
  have h₁ : model.className ++ "Repository.m" ≠ model.className ++ ".h" := by
    rw [Ne, String.append_right_inj]; decide +kernel
  have h₂ : model.className ++ "Repository.h" ≠ model.className ++ ".h" := by
    rw [Ne, String.append_right_inj]; decide +kernel
  have h₃ : model.className ++ ".m" ≠ model.className ++ ".h" := by
    rw [Ne, String.append_right_inj]; decide +kernel
  have h₄ : model.className ++ "Repository.m" ≠ model.className ++ "Repository.h" := by
    rw [Ne, String.append_right_inj]; decide +kernel
  simp only [find?_modelFiles, ← hc, ← hs]
  constructor
  · intro h
    refine ⟨fun hk => ?_, fun hk => ?_, fun hk => ?_⟩
    · simpa only [h₁, h₂, h₃, if_false, if_true, Option.some.injEq] using h _ hk
    · simpa only [h₄, if_false, if_true, Option.some.injEq] using h _ hk
    · simpa only [if_true, Option.some.injEq] using h _ hk
  · rintro ⟨hh, hr, hm⟩ k hk
    split
    · rename_i he
      rw [hm (he ▸ hk)]
    split
    · rename_i he
      rw [hr (he ▸ hk)]
    split
    · rfl
    split
    · rename_i he
      rw [hh (he ▸ hk)]
    · rfl

end RemoteBindings.ObjC
