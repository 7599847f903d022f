import RemoteBindings.Model.Registry
import RemoteBindings.Proofs.Entries

/-!
# Names that resolve

A registry resolves a name to the first of its own that is equal to it without regard to case. Two
registries may do so alike for the names that matter (`AgreeOn`), with other names or in another
order: `resolve?_perm` and `resolve?_eq_of_ne` say when.
-/

namespace RemoteBindings.Registry

variable {r r' : Registry} {name target : String}

theorem mem_names_of_resolve? (h : r.resolve? name = some target) : target ∈ r.names :=
  List.mem_of_find?_eq_some h

theorem mem_names_of_resolveValue? {v : Value} (h : r.resolveValue? v = some target) :
    target ∈ r.names := by
  cases v with
  | text name => exact mem_names_of_resolve? h
  | _ => cases h

/-- A name that others resolve to resolves to itself. -/
theorem resolve?_of_resolve? (h : r.resolve? name = some target) :
    r.resolve? target = some target := by
  have hl : Text.lower target = Text.lower name := by simpa using List.find?_some h
  rw [resolve?, hl]
  exact h

/-- Names that are distinct without regard to case may be declared in any order. -/
theorem resolve?_perm (hp : r.names.Perm r'.names) (hn : (r.names.map Text.lower).Nodup) :
    r.resolve? name = r'.resolve? name := by
  have hf (names : List String) : (names.find? fun n => Text.lower n == Text.lower name) =
      Entries.find? (Text.lower name) (names.map fun n => (Text.lower n, n)) := by
    induction names with
    | nil => rfl
    | cons n names ih =>
      rw [List.find?_cons, List.map_cons, Entries.find?, ih]
      cases Text.lower n == Text.lower name <;> rfl
  rw [resolve?, resolve?, hf, hf]
  refine Entries.find?_perm (hp.map _) ?_
  rwa [Entries.keys, List.map_map]

/-- A declared name matters to the names that are equal to it without regard to case. -/
theorem resolve?_eq_of_ne {other : String} (hr : r.names = r'.names.filter fun n => !(n == other))
    (hne : Text.lower other ≠ Text.lower name) : r.resolve? name = r'.resolve? name := by
  rw [resolve?, resolve?, hr, List.find?_filter]
  refine congrArg (fun p => List.find? p r'.names) (funext fun n => Bool.eq_iff_iff.mpr ?_)
  by_cases hn : n = other
  · simp [hn, hne]
  · simp [hn]

/-- The registries resolve some names to the same. -/
def AgreeOn (r r' : Registry) (names : List String) : Prop :=
  ∀ name ∈ names, r.resolve? name = r'.resolve? name

theorem AgreeOn.mono {names names' : List String} (h : AgreeOn r r' names)
    (hsub : names' ⊆ names) : AgreeOn r r' names' := fun name hn => h name (hsub hn)

end RemoteBindings.Registry
