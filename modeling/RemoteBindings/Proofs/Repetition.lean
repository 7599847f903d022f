import RemoteBindings.Proofs.Resynthesis

/-!
# Synthesis in any order

Models may be synthesized one by one, in any order and some of them more than once
(`synthesizeNamed`). One call binds the model of its name and leaves the others as they are, also if
that model is bound already (`result_synthesizeAt`), which keeps the invariant `CalledSoFar`. So
after some calls the models of these names are bound (`result_synthesizeNamed`). If each model has
been called, the result is that of the synthesis of all models in turn (`synthesizeNamed_eq_ok_iff`).
-/

namespace RemoteBindings

open ObjC

variable {r : Registry} {models : Models} {done calls : List String} {key : String}

/-- Synthesizes the model of a name among others. -/
def synthesizeAt (r : Registry) (key : String) (models : Models) : Run Models :=
  match Entries.find? key models with
  | none => { result := models }
  | some model => (synthesize r model).map fun m => Entries.put key m models

/-- Synthesizes the models of some names one after the other. -/
def synthesizeNamed (r : Registry) : List String → Models → Run Models
  | [], models => { result := models }
  | key :: calls, models => (synthesizeAt r key models).bind id (synthesizeNamed r calls)

/-- Models of which those with the names in `done` have been bound. -/
def boundAmong (r : Registry) (done : List String) (models : Models) : Models :=
  models.map fun e => (e.1, if e.1 ∈ done then bound r e.2 else e.2)

/-! ## Models of which some are bound -/

theorem keys_boundAmong : (boundAmong r done models).keys = models.keys := by
  rw [Entries.keys, boundAmong, List.map_map]
  rfl

theorem boundAmong_nil (r : Registry) (models : Models) : boundAmong r [] models = models := by
  simp [boundAmong]

theorem boundAmong_of_all (h : ∀ key ∈ models.keys, key ∈ done) :
    boundAmong r done models = boundModels r models := by
  refine List.map_congr_left fun e he => ?_
  rw [if_pos (h e.1 (List.mem_map_of_mem he))]

theorem find?_boundAmong :
    Entries.find? key (boundAmong r done models) =
      (Entries.find? key models).map fun m => if key ∈ done then bound r m else m := by
  induction models with
  | nil => rfl
  | cons e models ih =>
    simp only [boundAmong, List.map_cons, Entries.find?] at ih ⊢
    split
    · rename_i hk
      rw [eq_of_beq hk, Option.map_some]
    · exact ih

theorem put_boundAmong {model : Model} (hn : models.keys.Nodup)
    (hf : Entries.find? key models = some model) :
    Entries.put key (bound r model) (boundAmong r done models) =
      boundAmong r (key :: done) models := by
  have hm := (Entries.find?_eq_some_iff hn).mp hf
  have hone : ∀ e ∈ models, e.1 = key → e.2 = model :=
    (Entries.forall_of_find? (p := (· = model)) hn hf).mpr rfl
  have hk : key ∈ (boundAmong r done models).keys := by
    rw [keys_boundAmong]
    exact List.mem_map_of_mem (f := Prod.fst) hm
  rw [Entries.put_of_mem (by rwa [keys_boundAmong]) hk, boundAmong, boundAmong, List.map_map]
  refine List.map_congr_left fun e he => ?_
  simp only [Function.comp_apply, List.mem_cons, beq_iff_eq]
  by_cases hkey : e.1 = key
  · rw [if_pos hkey, if_pos (.inl hkey), hone e he hkey, hkey]
  · simp [hkey]

/-! ## Calls -/

/-- What holds between calls: the models have different names and were not synthesized before the
first, and those that have been called have no fault. -/
structure CalledSoFar (r : Registry) (models : Models) (done : List String) : Prop where
  names : models.keys.Nodup
  unflagged : ∀ e ∈ models, Unflagged e.2
  faultless : ∀ e ∈ models, e.1 ∈ done → (synthesize r e.2).fault = none

/-- A model may be synthesized exactly if it may be when it has been bound. -/
theorem fault_synthesizeAt (hc : CalledSoFar r models done) :
    (synthesizeAt r key (boundAmong r done models)).fault = none ↔
      ∀ e ∈ models, e.1 = key → (synthesize r e.2).fault = none := by
  unfold synthesizeAt
  rw [find?_boundAmong]
  cases hf : Entries.find? key models with
  | none =>
    have hk := Entries.find?_eq_none_iff.mp hf
    refine iff_of_true rfl ?_
    rintro e he rfl
    exact absurd (List.mem_map_of_mem he) hk
  | some model =>
    have hm := (Entries.find?_eq_some_iff hc.names).mp hf
    rw [Entries.forall_of_find? (p := fun m => (synthesize r m).fault = none) hc.names hf]
    simp only [Option.map_some, Run.fault_map]
    split
    · rename_i hkd
      have hs := hc.faultless _ hm hkd
      exact iff_of_true (synthesize_bound (hc.unflagged _ hm) hs).1 hs
    · rfl

/-- A call binds one model, if it is not bound already. -/
theorem result_synthesizeAt (hc : CalledSoFar r models done)
    (h : (synthesizeAt r key (boundAmong r done models)).fault = none) :
    (synthesizeAt r key (boundAmong r done models)).result = boundAmong r (key :: done) models := by
  have hall := (fault_synthesizeAt hc).mp h
  unfold synthesizeAt
  rw [find?_boundAmong]
  cases hf : Entries.find? key models with
  | none =>
    have hk := Entries.find?_eq_none_iff.mp hf
    refine List.map_congr_left fun e he => ?_
    have hne : e.1 ≠ key := by
      rintro rfl
      exact hk (List.mem_map_of_mem he)
    simp [hne]
  | some model =>
    have hm := (Entries.find?_eq_some_iff hc.names).mp hf
    have hu := hc.unflagged _ hm
    have hs := hall _ hm rfl
    simp only [Option.map_some, Run.result_map]
    rw [← put_boundAmong hc.names hf]
    split
    · rw [(synthesize_bound hu hs).2]
    · rw [result_synthesize hu hs]

theorem CalledSoFar.call (hc : CalledSoFar r models done)
    (h : (synthesizeAt r key (boundAmong r done models)).fault = none) :
    CalledSoFar r models (key :: done) := by
  refine ⟨hc.names, hc.unflagged, fun e he hmem => ?_⟩
  rcases List.mem_cons.mp hmem with hkey | hdone
  · exact (fault_synthesizeAt hc).mp h e he hkey
  · exact hc.faultless e he hdone

/-- Calls have no fault exactly if none of their models has one. -/
theorem fault_synthesizeNamed (hc : CalledSoFar r models done) :
    (synthesizeNamed r calls (boundAmong r done models)).fault = none ↔
      ∀ e ∈ models, e.1 ∈ calls → (synthesize r e.2).fault = none := by
  induction calls generalizing done with
  | nil => simp [synthesizeNamed]
  | cons key calls ih =>
    have hsplit : (∀ e ∈ models, e.1 ∈ key :: calls → (synthesize r e.2).fault = none) ↔
        (∀ e ∈ models, e.1 = key → (synthesize r e.2).fault = none) ∧
          ∀ e ∈ models, e.1 ∈ calls → (synthesize r e.2).fault = none := by
      simp only [List.mem_cons, or_imp, forall_and]
    rw [synthesizeNamed, Run.fault_bind, hsplit, ← fault_synthesizeAt hc]
    refine and_congr_right fun h => ?_
    rw [result_synthesizeAt hc h]
    exact ih (hc.call h)

/-- Calls bind the models of their names. -/
theorem result_synthesizeNamed (hc : CalledSoFar r models done)
    (h : (synthesizeNamed r calls (boundAmong r done models)).fault = none) :
    (synthesizeNamed r calls (boundAmong r done models)).result =
      boundAmong r (calls.reverse ++ done) models := by
  induction calls generalizing done with
  | nil => rfl
  | cons key calls ih =>
    rw [synthesizeNamed] at h ⊢
    obtain ⟨hat, hrest⟩ := (Run.fault_bind _ _ _).mp h
    rw [result_synthesizeAt hc hat] at hrest
    rw [Run.result_bind h, result_synthesizeAt hc hat, ih (hc.call hat) hrest, List.reverse_cons,
      List.append_assoc]
    rfl

/-- Calls of all models come to an end exactly if their synthesis in turn does. -/
theorem fault_synthesizeNamed_of_all (hc : CalledSoFar r models [])
    (hall : ∀ key ∈ models.keys, key ∈ calls) :
    (synthesizeNamed r calls models).fault = none ↔ (synthesizeAll r models).fault = none := by
  have h : (synthesizeNamed r calls (boundAmong r [] models)).fault = none ↔ _ :=
    fault_synthesizeNamed hc
  rw [boundAmong_nil] at h
  rw [h, synthesizeAll, Run.fault_each]
  exact forall₂_congr fun e he => imp_iff_right (hall e.1 (List.mem_map_of_mem he))

theorem result_synthesizeNamed_of_all (hc : CalledSoFar r models [])
    (hall : ∀ key ∈ models.keys, key ∈ calls) (h : (synthesizeNamed r calls models).fault = none) :
    (synthesizeNamed r calls models).result = boundModels r models := by
  rw [← boundAmong_nil r models] at h
  have hb := result_synthesizeNamed hc h
  rw [boundAmong_nil, List.append_nil] at hb
  rw [hb, boundAmong_of_all fun key hk => List.mem_reverse.mpr (hall key hk)]

/-! ## Services -/

variable {service : Descriptor.Service} {classPrefix : String} {final : Models}

/-- However the models of a service are synthesized, each of them once or more often: the calls have
no fault exactly if the synthesis of all in turn has none, and the models come out the same. The
selectors of a model are those of its methods in turn, once each, and the methods that have one are
flagged. -/
theorem synthesizeNamed_eq_ok_iff
    (hall : ∀ key ∈ (describe service classPrefix).1.models.keys, key ∈ calls) :
    ((synthesizeNamed (registryOf service classPrefix) calls
          (describe service classPrefix).1.models).toExcept = .ok final ↔
        (synthesizeAll (registryOf service classPrefix)
          (describe service classPrefix).1.models).toExcept = .ok final) ∧
      ((synthesizeNamed (registryOf service classPrefix) calls
          (describe service classPrefix).1.models).toExcept = .ok final →
        ∀ e ∈ final, ∃ model, (e.1, model) ∈ (describe service classPrefix).1.models ∧
          e.2.selectors = model.methods.flatMap
            (overloads (registryOf service classPrefix)
              (named (registryOf service classPrefix) model)) ∧
          e.2.methods = model.methods.map
            (flagged (registryOf service classPrefix)
              (named (registryOf service classPrefix) model))) := by
  have hc : CalledSoFar (registryOf service classPrefix)
      (describe service classPrefix).1.models [] :=
    ⟨nodup_keys_describe, fun e he => (fresh_describe e he).unflagged, by simp⟩
  have hfault := fault_synthesizeNamed_of_all hc hall
  simp only [Run.toExcept_eq_ok_iff]
  constructor
  · rw [hfault]
    refine and_congr_right fun h => ?_
    rw [result_synthesizeNamed_of_all hc hall (hfault.mpr h), result_synthesizeAll hc.unflagged h]
  · rintro ⟨h, rfl⟩ e he
    rw [result_synthesizeNamed_of_all hc hall h] at he
    obtain ⟨⟨key, model⟩, hm, rfl⟩ := List.mem_map.mp he
    refine ⟨model, hm, ?_, rfl⟩
    have hs : model.selectors = [] := (fresh_describe _ hm).selectors
    simp only [bound, hs, List.nil_append]

/-- A class with the method `find`, which has an optional argument and so two selectors. -/
def rawFiltered : Value :=
  rawClass "Note" [(.text "methods", .list [.map [(.text "name", .text "find"),
    (.text "accepts", .list [.map [(.text "arg", .text "filter"),
      (.text "type", .text "object")]])]])]

/-- Two models, one of which is synthesized before the other and once more after it. -/
theorem synthesizeNamed_eq_ok_iff_note :
    ∃ service, Descriptor.build (.list [rawFiltered, rawClass "Tag" []]) = .ok service ∧
      (∀ key ∈ (describe service "").1.models.keys, key ∈ ["Tag", "Note", "Tag", "Note"]) ∧
      ∃ final, (synthesizeNamed (registryOf service "") ["Tag", "Note", "Tag", "Note"]
          (describe service "").1.models).toExcept = .ok final ∧
        (∃ e ∈ final, e.2.selectors.map Selector.name = ["allWithSuccess", "findWithFilter"]) ∧
        (synthesizeAll (registryOf service "") (describe service "").1.models).toExcept =
          .ok final ∧
        ∀ e ∈ final, ∃ model, (e.1, model) ∈ (describe service "").1.models ∧
          e.2.selectors = model.methods.flatMap
            (overloads (registryOf service "") (named (registryOf service "") model)) ∧
          e.2.methods = model.methods.map
            (flagged (registryOf service "") (named (registryOf service "") model)) := by
  have h : ∃ service, Descriptor.build (.list [rawFiltered, rawClass "Tag" []]) = .ok service ∧
      (∀ key ∈ (describe service "").1.models.keys, key ∈ ["Tag", "Note", "Tag", "Note"]) ∧
      ∃ final, (synthesizeNamed (registryOf service "") ["Tag", "Note", "Tag", "Note"]
          (describe service "").1.models).toExcept = .ok final ∧
        ∃ e ∈ final, e.2.selectors.map Selector.name = ["allWithSuccess", "findWithFilter"] := by
    decide +kernel
  obtain ⟨service, hs, hall, final, hf, he⟩ := h
  exact ⟨service, hs, hall, final, hf, he, (synthesizeNamed_eq_ok_iff hall).1.mp hf,
    (synthesizeNamed_eq_ok_iff hall).2 hf⟩

end RemoteBindings
