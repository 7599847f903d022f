import Mathlib.Data.List.Nodup
import RemoteBindings.Proofs.Service

/-!
# Keywords of selectors

Objective-C tells the methods of a class apart by their `Selector.keywords`. Those of a pass over a
method follow from its name and the labels of its arguments (`keywordsOf`), so the two overloads of
a method never share them: one has more arguments (`nodup_keywords_overloads`). Two methods may.
`nodup_keywords_of_bindService` says when all selectors of a model are apart, and that they are if
the names of its methods are apart without the instance mark (`NamesApart`).
-/

namespace RemoteBindings

/-- The parts of the name of a selector, one before each of its colons. -/
def Selector.keywords (s : Selector) : List String :=
  s.name :: (s.arguments.tail.map Argument.arg ++
    if s.arguments.isEmpty then ["failure"] else ["success", "failure"])

namespace ObjC

variable {r : Registry} {model : Model} {m : Method} {pass : Pass}

/-- The name of a method and its first argument. -/
def callName (method : String) : List String → String
  | [] => plainMethodName method ++ "With" ++ "Success"
  | label :: _ => plainMethodName method ++ "With" ++ Text.upperFirst label

/-- The keywords of a method with the given labels. -/
def keywordsOf (method : String) (labels : List String) : List String :=
  betterName (callName method labels) ::
    (labels.tail ++ if labels.isEmpty then ["failure"] else ["success", "failure"])

/-- The labels of the arguments that a pass considers. -/
def labels (pass : Pass) (m : Method) : List String := (considered pass m).map Param.arg

/-- Whether a pass over a method that fits makes a selector. -/
structure Called (pass : Pass) (m : Method) : Prop where
  bound : m.name ∉ unboundMethods
  optional : pass = .all → hasOptional m = true
  invoked : callName m.name (labels pass m) ∉ withheldNames

/-- The methods of a model that need selectors, by their names without the instance mark. -/
def plainNames (model : Model) : List String :=
  (model.methods.filter fun m => !unboundMethods.contains m.name).map fun m =>
    plainMethodName m.name

/-- Names of which no two can come to the same keywords. -/
structure NamesApart (names : List String) : Prop where
  nodup : names.Nodup
  notContinued : ∀ s ∈ names, ∀ t ∈ names, ∀ x, s ≠ t ++ "With" ++ x
  notFindAndAll : ¬ ("find" ∈ names ∧ "all" ∈ names)

/-! ## Keywords of overloads -/

theorem map_arg_of_argumentsOf {hasBody : Bool} {ps : List Param} {as : List Argument}
    (h : argumentsOf r model m hasBody ps = .ok as) : as.map Argument.arg = ps.map Param.arg := by
  replace h := argumentsOf_forall₂ h
  induction h with
  | nil => rfl
  | cons h _ ih =>
    obtain ⟨type, -, rfl⟩ := argumentOf_eq_ok_iff.mp h
    rw [List.map_cons, List.map_cons, ih]

theorem fullName_eq (m : Method) (as : List Argument) :
    fullName m as = callName m.name (as.map Argument.arg) := by
  cases as with
  | nil => rw [fullName, List.map_nil, callName, String.append_assoc]; rfl
  | cons a as => rfl

theorem keywords_selectorOf (as : List Argument) (type : String) :
    (selectorOf model m as type).keywords = keywordsOf m.name (as.map Argument.arg) := by
  rw [Selector.keywords, keywordsOf]
  simp only [selectorOf, fullName_eq, List.map_tail, List.isEmpty_map]

/-- The keywords of a selector follow from its method and pass. -/
theorem keywords_of_attempt {s : Selector} (h : attempt r model m pass = .ok (.selector s)) :
    s.keywords = keywordsOf m.name (labels pass m) ∧
      callName m.name (labels pass m) ∉ withheldNames := by
  obtain ⟨-, as, type, ha, -, hw, rfl⟩ := attempt_selector h
  rw [labels, ← map_arg_of_argumentsOf ha, ← fullName_eq, keywords_selectorOf]
  exact ⟨rfl, hw⟩

theorem exists_selector (hf : Fits r model m) (hu : m.name ∉ unboundMethods)
    (hw : callName m.name (labels pass m) ∉ withheldNames) :
    ∃ s, attempt r model m pass = .ok (.selector s) := by
  obtain ⟨as, ha⟩ : ∃ as, argumentsOf r model m false (considered pass m) = .ok as :=
    argumentsOf_isOk_iff.mpr
      ⟨hf.considered pass, by rw [countP_isBody_considered]; exact hf.oneBody⟩
  obtain ⟨type, ht⟩ := returnTypeOf_isOk_iff.mpr hf.result
  rw [labels, ← map_arg_of_argumentsOf ha, ← fullName_eq] at hw
  simp only [attempt, List.contains_iff_mem, hu, ha, ht, hw, if_false]
  exact ⟨_, rfl⟩

theorem mem_map_keywords_overloads (hf : m.name ∉ unboundMethods → Fits r model m)
    {k : List String} :
    k ∈ (overloads r model m).map Selector.keywords ↔
      ∃ pass, Called pass m ∧ k = keywordsOf m.name (labels pass m) := by
  simp only [List.mem_map, mem_overloads]
  constructor
  · rintro ⟨s, ⟨pass, ho, hs⟩, rfl⟩
    obtain ⟨hk, hw⟩ := keywords_of_attempt hs
    exact ⟨pass, ⟨(attempt_selector hs).1, ho, hw⟩, hk⟩
  · rintro ⟨pass, hc, rfl⟩
    obtain ⟨s, hs⟩ := exists_selector (hf hc.bound) hc.bound hc.invoked
    exact ⟨s, ⟨pass, hc.optional, hs⟩, (keywords_of_attempt hs).1⟩

/-- The number of keywords tells the number of labels. -/
theorem length_eq_of_keywordsOf_eq {n₁ n₂ : String} {l₁ l₂ : List String}
    (h : keywordsOf n₁ l₁ = keywordsOf n₂ l₂) : l₁.length = l₂.length := by
  have h := congrArg List.length h
  cases l₁ <;> cases l₂ <;> simp [keywordsOf] at h ⊢
  omega

theorem length_labels_lt (h : hasOptional m = true) :
    (labels .requiredOnly m).length < (labels .all m).length := by
  obtain ⟨p, hp, ho⟩ := List.any_eq_true.mp h
  simp only [Bool.and_eq_true, Bool.not_eq_true'] at ho
  rw [labels, labels, List.length_map, List.length_map, considered_requiredOnly,
    List.length_filter_lt_length_iff_exists]
  exact ⟨p, mem_considered_all.mpr ⟨hp, ho.1⟩, by rw [ho.2]; decide⟩

/-- The overloads of a method are apart, as the pass over all arguments has more of them. -/
theorem nodup_keywords_overloads (r : Registry) (model : Model) (m : Method) :
    ((overloads r model m).map Selector.keywords).Nodup := by
  have hp (pass : Pass) : ((passSelectors r model m pass).map Selector.keywords).Nodup := by
    unfold passSelectors
    split
    · rename_i a _
      cases a <;> simp [Attempt.selectors]
    · exact List.nodup_nil
  unfold overloads
  split
  · rename_i ho
    rw [List.map_append]
    refine (hp _).append (hp _) fun k h₁ h₂ => ?_
    obtain ⟨s₁, hs₁, rfl⟩ := List.mem_map.mp h₁
    obtain ⟨s₂, hs₂, hk⟩ := List.mem_map.mp h₂
    rw [(keywords_of_attempt (mem_passSelectors.mp hs₁)).1,
      (keywords_of_attempt (mem_passSelectors.mp hs₂)).1] at hk
    have hl := length_eq_of_keywordsOf_eq hk
    have := length_labels_lt ho
    omega
  · rw [List.append_nil]
    exact hp _

/-! ## Names with the same beginning -/

/-- What follows `With` in one name may hold another `With`, so a call name does not tell where its
method ends; but then one method name continues the other with `With`. -/
theorem append_with_cases {s x t y : String} (h : s ++ "With" ++ x = t ++ "With" ++ y) :
    (s = t ∧ x = y) ∨ (∃ z, s = t ++ "With" ++ z ∧ y = z ++ "With" ++ x) ∨
      ∃ z, t = s ++ "With" ++ z ∧ x = z ++ "With" ++ y := by
  -- `With` does not overlap itself, so what one name is ahead of the other is empty or begins so
  have hw {a x y : List Char} (h : "With".toList ++ x = a ++ ("With".toList ++ y)) :
      (a = [] ∧ x = y) ∨ ∃ z, a = "With".toList ++ z ∧ x = z ++ "With".toList ++ y := by
    rcases a with _ | ⟨c₁, _ | ⟨c₂, _ | ⟨c₃, _ | ⟨c₄, z⟩⟩⟩⟩ <;> simp at h
    · exact .inl ⟨rfl, h⟩
    · obtain ⟨rfl, rfl, rfl, rfl, rfl⟩ := h
      exact .inr ⟨z, rfl, by simp⟩
  have h := congrArg String.toList h
  simp only [String.toList_append, List.append_assoc] at h
  rcases List.append_eq_append_iff.mp h with ⟨a, ht, hx⟩ | ⟨a, hs, hy⟩
  · rcases hw hx with ⟨rfl, hxy⟩ | ⟨z, rfl, hx⟩
    · exact .inl ⟨String.toList_inj.mp (by simpa using ht.symm), String.toList_inj.mp hxy⟩
    · refine .inr (.inr ⟨String.ofList z, String.toList_inj.mp ?_, String.toList_inj.mp ?_⟩)
      · simpa using ht
      · simpa using hx
  · rcases hw hy with ⟨rfl, hxy⟩ | ⟨z, rfl, hy⟩
    · exact .inl ⟨String.toList_inj.mp (by simpa using hs), String.toList_inj.mp hxy.symm⟩
    · refine .inr (.inl ⟨String.ofList z, String.toList_inj.mp ?_, String.toList_inj.mp ?_⟩)
      · simpa using hs
      · simpa using hy

/-- A text in which `With` stands once has one beginning before it. -/
theorem eq_of_append_with {s x l t : String} (hl : ¬ "With".toList <:+: l.toList)
    (ht : ¬ "With".toList <:+: t.toList) (h : s ++ "With" ++ x = l ++ "With" ++ t) : s = l := by
  rcases append_with_cases h with ⟨hs, -⟩ | ⟨z, -, rfl⟩ | ⟨z, rfl, -⟩
  · exact hs
  · exact absurd ⟨z.toList, x.toList, by simp⟩ ht
  · exact absurd ⟨s.toList, z.toList, by simp⟩ hl

theorem betterName_cases (name : String) :
    betterName name = name ∨ (name, betterName name) ∈ betterNames := by
  unfold betterName
  cases h : betterNames.lookup name with
  | none => exact .inl rfl
  | some better => exact .inr (Entries.mem_of_lookup_eq_some h)

/-- Two names have the same better name if one is the better name of the other. -/
theorem eq_or_mem_of_betterName_eq {n₁ n₂ : String} (h : betterName n₁ = betterName n₂) :
    n₁ = n₂ ∨ (n₁, n₂) ∈ betterNames ∨ (n₂, n₁) ∈ betterNames := by
  have hv : ∀ e₁ ∈ betterNames, ∀ e₂ ∈ betterNames, e₁.2 = e₂.2 → e₁.1 = e₂.1 := by
    decide +kernel
  rcases betterName_cases n₁ with h₁ | h₁ <;> rcases betterName_cases n₂ with h₂ | h₂
  · exact .inl (h₁.symm.trans (h.trans h₂))
  · exact .inr (.inr (by rwa [← h, h₁] at h₂))
  · exact .inr (.inl (by rwa [h, h₂] at h₁))
  · exact .inl (hv _ h₁ _ h₂ h)

/-- Only `find` comes to the name of another method, `all`. -/
theorem methods_of_mem_betterNames {s x t y : String}
    (h : (s ++ "With" ++ x, t ++ "With" ++ y) ∈ betterNames) :
    s = t ∨ s = "find" ∧ t = "all" := by
  simp only [betterNames, List.mem_cons, Prod.mk.injEq, List.not_mem_nil, or_false] at h
  rcases h with ⟨-, h⟩ | ⟨h₁, h₂⟩ | ⟨h₁, h₂⟩ | ⟨h₁, h₂⟩
  · have hw : "With".toList <:+: "findById".toList := ⟨t.toList, y.toList, by simp [← h]⟩
    exact absurd hw (by decide +kernel)
  · have hs := eq_of_append_with (by decide +kernel) (by decide +kernel)
      (h₁.trans (rfl : _ = "find" ++ "With" ++ "Success"))
    have ht := eq_of_append_with (by decide +kernel) (by decide +kernel)
      (h₂.trans (rfl : _ = "all" ++ "With" ++ "Success"))
    exact .inr ⟨hs, ht⟩
  · have hs := eq_of_append_with (by decide +kernel) (by decide +kernel)
      (h₁.trans (rfl : _ = "updateAll" ++ "With" ++ "Where"))
    have ht := eq_of_append_with (by decide +kernel) (by decide +kernel)
      (h₂.trans (rfl : _ = "updateAll" ++ "With" ++ "WhereFilter"))
    exact .inl (hs.trans ht.symm)
  · have hs := eq_of_append_with (by decide +kernel) (by decide +kernel)
      (h₁.trans (rfl : _ = "count" ++ "With" ++ "Where"))
    have ht := eq_of_append_with (by decide +kernel) (by decide +kernel)
      (h₂.trans (rfl : _ = "count" ++ "With" ++ "WhereFilter"))
    exact .inl (hs.trans ht.symm)

theorem callName_eq (method : String) (ls : List String) :
    ∃ x, callName method ls = plainMethodName method ++ "With" ++ x := by
  cases ls with
  | nil => exact ⟨_, rfl⟩
  | cons l ls => exact ⟨_, rfl⟩

/-- Methods of different names that are apart have different keywords, whatever their labels. -/
theorem keywordsOf_ne {names : List String} (h : NamesApart names) {n₁ n₂ : String}
    (h₁ : plainMethodName n₁ ∈ names) (h₂ : plainMethodName n₂ ∈ names)
    (hne : plainMethodName n₁ ≠ plainMethodName n₂) (l₁ l₂ : List String) :
    keywordsOf n₁ l₁ ≠ keywordsOf n₂ l₂ := by
  intro hk
  obtain ⟨x, hx⟩ := callName_eq n₁ l₁
  obtain ⟨y, hy⟩ := callName_eq n₂ l₂
  have hb : betterName (callName n₁ l₁) = betterName (callName n₂ l₂) := (List.cons.inj hk).1
  rcases eq_or_mem_of_betterName_eq hb with he | he | he
  · rw [hx, hy] at he
    rcases append_with_cases he with ⟨he, -⟩ | ⟨z, he, -⟩ | ⟨z, he, -⟩
    · exact hne he
    · exact h.notContinued _ h₁ _ h₂ z he
    · exact h.notContinued _ h₂ _ h₁ z he
  · rw [hx, hy] at he
    rcases methods_of_mem_betterNames he with he | ⟨hf, ha⟩
    · exact hne he
    · exact h.notFindAndAll ⟨hf ▸ h₁, ha ▸ h₂⟩
  · rw [hx, hy] at he
    rcases methods_of_mem_betterNames he with he | ⟨hf, ha⟩
    · exact hne he.symm
    · exact h.notFindAndAll ⟨hf ▸ h₂, ha ▸ h₁⟩

end ObjC

open ObjC

variable {service : Descriptor.Service} {classPrefix : String} {b : Bindings} {e : String × Model}

/-- The selectors of a model are apart exactly if no two of its methods have passes with the same
keywords, and so they are if the names of the methods are apart. -/
theorem nodup_keywords_of_bindService (h : (bindService service classPrefix).toExcept = .ok b)
    (he : e ∈ b.models) :
    ((e.2.selectors.map Selector.keywords).Nodup ↔
      e.2.methods.Pairwise fun m n => ∀ p q, Called p m → Called q n →
        keywordsOf m.name (labels p m) ≠ keywordsOf n.name (labels q n)) ∧
    (NamesApart (plainNames e.2) → (e.2.selectors.map Selector.keywords).Nodup) := by
  have hiff : (e.2.selectors.map Selector.keywords).Nodup ↔
      e.2.methods.Pairwise fun m n => ∀ p q, Called p m → Called q n →
        keywordsOf m.name (labels p m) ≠ keywordsOf n.name (labels q n) := by
    rw [selectors_of_bindService h he, List.map_flatMap, List.nodup_flatMap,
      and_iff_right fun m _ => nodup_keywords_overloads _ _ m]
    refine List.Pairwise.iff_of_mem fun {m n} hm hn => ?_
    have hk {m : Method} (hm : m ∈ e.2.methods) {k : List String} :=
      mem_map_keywords_overloads (fits_of_bindService h he hm) (k := k)
    simp only [Function.onFun, List.Disjoint, hk hm, hk hn]
    constructor
    · intro hd p q hp hq heq
      exact hd ⟨p, hp, rfl⟩ ⟨q, hq, heq⟩
    · rintro hd k ⟨p, hp, rfl⟩ ⟨q, hq, heq⟩
      exact hd p q hp hq heq
  refine ⟨hiff, fun ha => hiff.mpr ?_⟩
  have hm {m : Method} (hm : m ∈ e.2.methods) (hb : m.name ∉ unboundMethods) :
      plainMethodName m.name ∈ plainNames e.2 :=
    List.mem_map_of_mem (List.mem_filter.mpr ⟨hm, by simpa using hb⟩)
  have hn := List.pairwise_filter.mp (List.pairwise_map.mp ha.nodup)
  refine hn.imp_of_mem fun {m n} hmm hmn hne p q hp hq => ?_
  exact keywordsOf_ne ha (hm hmm hp.bound) (hm hmn hq.bound)
    (hne (by simpa using hp.bound) (by simpa using hq.bound)) _ _

/-- The raw description of a method that takes texts, required ones. -/
def rawMethod (name : String) (args : List String) : Value :=
  .map [(.text "name", .text name), (.text "isStatic", .bool true),
    (.text "accepts", .list (args.map fun arg => .map [(.text "arg", .text arg),
      (.text "type", .text "string"), (.text "required", .bool true)]))]

/-- The selectors of a class with two methods, which are apart as the names of the methods are. -/
theorem nodup_keywords_of_bindService_note :
    ∃ service, Descriptor.build (.list [rawClass "Note" [(.text "methods",
        .list [rawMethod "find" ["where"], rawMethod "prototype.rename" ["name"]])]]) =
        .ok service ∧
      ∃ b, (bindService service "").toExcept = .ok b ∧ ∃ e ∈ b.models,
        plainNames e.2 = ["find", "rename"] ∧ e.2.selectors.length = 2 ∧
        ((e.2.selectors.map Selector.keywords).Nodup ↔
          e.2.methods.Pairwise fun m n => ∀ p q, Called p m → Called q n →
            keywordsOf m.name (labels p m) ≠ keywordsOf n.name (labels q n)) ∧
        (e.2.selectors.map Selector.keywords).Nodup := by
  have h : ∃ service, Descriptor.build (.list [rawClass "Note" [(.text "methods",
      .list [rawMethod "find" ["where"], rawMethod "prototype.rename" ["name"]])]]) =
        .ok service ∧ ∃ b, (bindService service "").toExcept = .ok b ∧
        ∃ e ∈ b.models, plainNames e.2 = ["find", "rename"] ∧ e.2.selectors.length = 2 := by
    decide +kernel
  obtain ⟨service, hs, b, hb, e, he, hn, hl⟩ := h
  obtain ⟨hiff, hapart⟩ := nodup_keywords_of_bindService hb he
  have hw : ∀ s ∈ ["find", "rename"], ¬ "With".toList <:+: s.toList := by decide +kernel
  refine ⟨service, hs, b, hb, e, he, hn, hl, hiff, hapart ?_⟩
  rw [hn]
  refine ⟨by decide +kernel, fun s hs t _ x hx => ?_, by decide +kernel⟩
  exact hw s hs ⟨t.toList, x.toList, by simp [hx]⟩

/-- Methods of different names with the same keywords: a class method and an instance method of one
name, a method and another that continues its name, and the two that come to one better name. -/
theorem keywords_not_nodup :
    [[rawMethod "touch" [], rawMethod "prototype.touch" []],
      [rawMethod "move" ["toWithForce"], rawMethod "moveWithTo" ["force"]],
      [rawMethod "find" [], rawMethod "all" []]].Forall fun methods =>
        ∃ service, Descriptor.build (.list [rawClass "Note" [(.text "methods", .list methods)]]) =
            .ok service ∧
          ∃ b, (bindService service "").toExcept = .ok b ∧ ∃ e ∈ b.models,
            (e.2.methods.map Method.name).Nodup ∧
              ¬ (e.2.selectors.map Selector.keywords).Nodup := by
  decide +kernel

end RemoteBindings
