import Mathlib.Data.List.Pairwise
import RemoteBindings.Proofs.ScopeMethods

/-!
# Accessors that are written over

A scope keeps an accessor if its name has a method there that takes it over. That depends on the
last accessor that writes the name, as its own or as that of its companion
(`writes_apiName_iff`). `keeps_iff` says for which accessors all are kept: those that share a name
have the same call, and a companion with the name of an accessor comes before it.
-/

namespace RemoteBindings

open AccessorName (SharesName)

variable {r : Registry} {model : Model} {name op op' : String} {scope : Scope}
  {accessors : List (String × Method)}

/-- Two methods are called in the same way. -/
structure SameCall (m n : Method) : Prop where
  accepts : m.accepts = n.accepts
  returns : m.returns = n.returns
  isStatic : m.isStatic = n.isStatic
  http : m.http = n.http

/-- The name of the accessor has a method in the scope that takes the accessor over and returns what
its return type says. -/
def Scope.Keeps (scope : Scope) (a : AccessorName) (m : Method) : Prop :=
  ∃ e, Entries.find? a.apiName scope.methods = some e ∧ TakesOver m e ∧ e.returnsArray = false

/-- Accessors of a scope that do not write over one another. -/
structure KeptApart (name : String) (accessors : List (String × Method)) : Prop where
  /-- Accessors that share a name have the same call. -/
  sameCall : ∀ x ∈ accessors, ∀ y ∈ accessors, SharesName x.1 y.1 → SameCall x.2 y.2
  /-- An accessor that returns a collection in any case is written over by another one. -/
  collection : ∀ before x after, accessors = before ++ x :: after → x.2.returnsArray = true →
    ∃ y ∈ after, SharesName x.1 y.1
  /-- An accessor whose companion has written over another one is followed by one of that name. -/
  companion : Text.contains name "create" = false →
    ∀ before x after, accessors = before ++ x :: after → Text.contains x.1 "create" = true →
      (∃ y ∈ before, y.1 = manyName x.1) → ∃ y ∈ after, y.1 = manyName x.1

/-- A kept accessor has its name from the last one that shares it, which is no collection. -/
theorem Scope.Keeps.exists_last (hm : scope.methods = Entries.ofList (entriesOf name accessors))
    {x : String × Method} (hx : x ∈ accessors) (h : scope.Keeps ⟨x.1, name⟩ x.2) :
    ∃ before y after, accessors = before ++ y :: after ∧
      (∀ z ∈ after, ¬ Writes name z.1 (⟨x.1, name⟩ : AccessorName).apiName) ∧
      SharesName y.1 x.1 ∧ y.2.returnsArray = false := by
  have hw : ∃ y ∈ accessors, Writes name y.1 (⟨x.1, name⟩ : AccessorName).apiName :=
    ⟨x, hx, writes_self⟩
  obtain ⟨before, y, after, e, hacc, hafter, hf, he⟩ := exists_last_writer hm hw
  obtain ⟨e', hf', -, harray⟩ := h
  obtain rfl : e = e' := Option.some.inj (hf.symm.trans hf')
  rcases he with ⟨hs, rfl⟩ | ⟨-, hmany⟩
  · exact ⟨before, y, after, hacc, hafter, hs, harray⟩
  · exact absurd (hmany.symm.trans harray) (by decide)

theorem keptApart_of_keeps (hm : scope.methods = Entries.ofList (entriesOf name accessors))
    (h : ∀ x ∈ accessors, scope.Keeps ⟨x.1, name⟩ x.2) : KeptApart name accessors where
  sameCall x hx y hy hs := by
    obtain ⟨e, hf, hx, -⟩ := h x hx
    obtain ⟨e', hf', hy, -⟩ := h y hy
    rw [AccessorName.apiName_eq_iff.mpr hs, hf', Option.some.injEq] at hf
    subst hf
    exact ⟨hx.accepts.symm.trans hy.accepts, hx.returns.symm.trans hy.returns,
      hx.isStatic.symm.trans hy.isStatic, hx.http.symm.trans hy.http⟩
  collection before x after hacc harray := by
    have hx : x ∈ accessors := hacc ▸ List.mem_append_right _ List.mem_cons_self
    obtain ⟨before', y, after', hacc', hafter, hs, hplain⟩ := (h x hx).exists_last hm hx
    rcases eq_or_mem_of_append_cons_eq (hacc.symm.trans hacc') with rfl | hy | hx
    · exact absurd (harray.symm.trans hplain) (by decide)
    · exact ⟨y, hy, hs.symm⟩
    · exact absurd writes_self (hafter x hx)
  companion hn before x after hacc hc := by
    rintro ⟨z, hz, hzx⟩
    have hz : z ∈ accessors := hacc ▸ List.mem_append_left _ hz
    obtain ⟨before', y, after', hacc', hafter, hs, -⟩ := (h z hz).exists_last hm hz
    have hy : manyName x.1 = y.1 := by
      rw [hzx] at hs
      exact (AccessorName.sharesName_iff (contains_manyName hc)).mp hs.symm
    rcases eq_or_mem_of_append_cons_eq (hacc.symm.trans hacc') with rfl | hmem | hx
    · exact absurd hy (manyName_ne hc)
    · exact ⟨y, hmem, hy.symm⟩
    · exact absurd (writes_apiName_iff.mpr (.inr ⟨hn, hc, hzx⟩)) (hafter x hx)

theorem keeps_of_keptApart (hm : scope.methods = Entries.ofList (entriesOf name accessors))
    (h : KeptApart name accessors) : ∀ x ∈ accessors, scope.Keeps ⟨x.1, name⟩ x.2 := by
  intro x hx
  have hw : ∃ y ∈ accessors, Writes name y.1 (⟨x.1, name⟩ : AccessorName).apiName :=
    ⟨x, hx, writes_self⟩
  obtain ⟨before, y, after, e, hacc, hafter, hf, he⟩ := exists_last_writer hm hw
  have hy : y ∈ accessors := hacc ▸ List.mem_append_right _ List.mem_cons_self
  rcases he with ⟨hs, rfl⟩ | ⟨⟨hn, hc, hxy⟩, -⟩
  · have hcall := h.sameCall y hy x hx hs
    refine ⟨_, hf, ⟨hcall.accepts, hcall.returns, hcall.isStatic, hcall.http, rfl, rfl⟩, ?_⟩
    refine Bool.eq_false_iff.mpr fun harray => ?_
    obtain ⟨z, hz, hsz⟩ := h.collection before y after hacc harray
    have hw : Writes name z.1 (⟨y.1, name⟩ : AccessorName).apiName :=
      writes_apiName_iff.mpr (.inl hsz.symm)
    rw [AccessorName.apiName_eq_iff.mpr hs] at hw
    exact hafter z hz hw
  · -- The entry of a companion would be written over by an accessor that comes later.
    rw [hacc, List.mem_append, List.mem_cons] at hx
    rcases hx with hx | rfl | hx
    · obtain ⟨z, hz, hzy⟩ := h.companion hn before y after hacc hc ⟨x, hx, hxy⟩
      exact absurd (writes_apiName_iff.mpr (.inl (.inl (hzy.trans hxy.symm)))) (hafter z hz)
    · exact absurd hxy.symm (manyName_ne hc)
    · exact absurd writes_self (hafter x hx)

/-- A scope keeps all its accessors exactly if these do not write over one another. -/
theorem keeps_iff (hs : Entries.find? name (groupScopes r model).1.scopes = some (some scope)) :
    (∀ m ∈ model.methods, ∀ op, AccessorName.parse? m.name = some ⟨op, name⟩ →
      scope.Keeps ⟨op, name⟩ m) ↔ KeptApart name (accessorsOf name model.methods) := by
  have hm := methods_groupScopes hs
  have hall : (∀ m ∈ model.methods, ∀ op, AccessorName.parse? m.name = some ⟨op, name⟩ →
      scope.Keeps ⟨op, name⟩ m) ↔
      ∀ x ∈ accessorsOf name model.methods, scope.Keeps ⟨x.1, name⟩ x.2 :=
    ⟨fun h x hx => h x.2 (mem_accessorsOf.mp hx).1 x.1 (mem_accessorsOf.mp hx).2,
      fun h m hm op ha => h (op, m) (mem_accessorsOf.mpr ⟨hm, ha⟩)⟩
  exact hall.trans ⟨keptApart_of_keeps hm, keeps_of_keptApart hm⟩

/-- Accessors without a common name are kept apart if each companion comes before the accessor that
has its name. -/
theorem KeptApart.of_pairwise (harray : ∀ x ∈ accessors, x.2.returnsArray = false)
    (h : (accessors.map Prod.fst).Pairwise fun op op' => ¬ SharesName op op' ∧
      (Text.contains op' "create" = true → op ≠ manyName op')) : KeptApart name accessors where
  sameCall x hx y hy hs := by
    rw [List.pairwise_map] at h
    have hd : accessors.Pairwise fun x y => ¬ SharesName x.1 y.1 := h.imp And.left
    have hsymm : Std.Symm fun x y : String × Method => ¬ SharesName x.1 y.1 :=
      ⟨fun _ _ hn hs => hn hs.symm⟩
    by_cases he : x = y
    · exact he ▸ ⟨rfl, rfl, rfl, rfl⟩
    · exact absurd hs (hd.forall hx hy he)
  collection before x after hacc hx := by
    have hplain := harray x (hacc ▸ List.mem_append_right _ List.mem_cons_self)
    exact absurd (hx.symm.trans hplain) (by decide)
  companion _ before x after hacc hc := by
    rintro ⟨y, hy, hyx⟩
    rw [List.pairwise_map, hacc, List.pairwise_append] at h
    exact absurd hyx ((h.2.2 y hy x List.mem_cons_self).2 hc)

/-- An accessor `createMany` is kept if it comes after `create`. -/
theorem keeps_iff_note :
    DescribesScope (rawScoped "tags" ["prototype.__get__tags", "prototype.__create__tags",
        "prototype.__createMany__tags", "prototype.__delete__tags"]) "Note" "tags"
      fun note scope =>
        (accessorsOf "tags" note.methods).map Prod.fst =
          ["get", "create", "createMany", "delete"] ∧
        ∀ m ∈ note.methods, ∀ op, AccessorName.parse? m.name = some ⟨op, "tags"⟩ →
          scope.Keeps ⟨op, "tags"⟩ m := by
  have h : DescribesScope (rawScoped "tags" ["prototype.__get__tags", "prototype.__create__tags",
      "prototype.__createMany__tags", "prototype.__delete__tags"]) "Note" "tags" fun note _ =>
        (accessorsOf "tags" note.methods).map Prod.fst =
          ["get", "create", "createMany", "delete"] ∧
        ∀ x ∈ accessorsOf "tags" note.methods, x.2.returnsArray = false := by
    decide +kernel
  obtain ⟨service, hb, note, hn, scope, hs, hops, harray⟩ := h
  have hapart : KeptApart "tags" (accessorsOf "tags" note.methods) := by
    refine .of_pairwise harray ?_
    rw [hops]
    decide +kernel
  exact ⟨service, hb, note, hn, scope, hs, hops, (keeps_iff hs).mpr hapart⟩

theorem not_keeps_of_http {a : AccessorName} {m : Method}
    (h : (Entries.find? a.apiName scope.methods).map Method.http ≠ some m.http) :
    ¬ scope.Keeps a m := by
  rintro ⟨e, hf, he, -⟩
  rw [hf, Option.map_some, he.http] at h
  exact h rfl

/-- The first of two accessors is lost: to a companion of the second, to its other name, and to a
name with a final line feed. -/
theorem accessors_replaced :
    [("prototype.__createMany__tags", "prototype.__create__tags"),
      ("prototype.__destroyAll__tags", "prototype.__delete__tags"),
      ("prototype.__get__tags", "prototype.__get__tags\n")].Forall fun names =>
        DescribesScope (rawScoped "tags" [names.1, names.2]) "Note" "tags" fun note scope =>
          (note.methods.map Method.name).Nodup ∧ ∃ m ∈ note.methods, m.name = names.1 ∧
            ∃ a, AccessorName.parse? m.name = some a ∧ a.scope = "tags" ∧ ¬ scope.Keeps a m := by
  have h : [("prototype.__createMany__tags", "prototype.__create__tags"),
      ("prototype.__destroyAll__tags", "prototype.__delete__tags"),
      ("prototype.__get__tags", "prototype.__get__tags\n")].Forall fun names =>
        DescribesScope (rawScoped "tags" [names.1, names.2]) "Note" "tags" fun note scope =>
          (note.methods.map Method.name).Nodup ∧ ∃ m ∈ note.methods, m.name = names.1 ∧
            ∃ a, AccessorName.parse? m.name = some a ∧ a.scope = "tags" ∧
              (Entries.find? a.apiName scope.methods).map Method.http ≠ some m.http := by
    decide +kernel
  refine h.imp fun names hnames => hnames.mono ?_
  rintro note scope ⟨hn, m, hm, hname, a, ha, hscope, hhttp⟩
  exact ⟨hn, m, hm, hname, a, ha, hscope, not_keeps_of_http hhttp⟩

end RemoteBindings
