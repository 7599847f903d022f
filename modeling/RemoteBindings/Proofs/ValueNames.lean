import RemoteBindings.ObjC.TypeMap
import RemoteBindings.Proofs.Checks
import RemoteBindings.Proofs.Entries
import RemoteBindings.Value.Cycle

/-!
# Constructors by their names

The type of a property may be given by a constructor or by its name. `Value.named` writes a value
with the name in the place of each constructor in it. That makes no difference to the shape of a
value: it commutes with `exposed` and `settled` (`exposed_named`, `settled_named`), and a value can
be written if the named one can (`isWritable_named`).
-/

namespace RemoteBindings.Value

mutual

/-- A value with its functions replaced by their names; the keys of a mapping are names already. -/
def named : Value → Value
  | function name => text name
  | list items => list (namedItems items)
  | tuple items => tuple (namedItems items)
  | set items => set (namedItems items)
  | map entries => map (namedEntries entries)
  | knot label content => knot label (named content)
  | endpoint verb path extra => endpoint verb path (namedFields extra)
  | property type id generated required extra =>
    property (named type) (named id) generated required (namedFields extra)
  | v => v

def namedItems : List Value → List Value
  | [] => []
  | v :: vs => named v :: namedItems vs

def namedEntries : List (Value × Value) → List (Value × Value)
  | [] => []
  | (k, v) :: es => (k, named v) :: namedEntries es

def namedFields : List (String × Value) → List (String × Value)
  | [] => []
  | (k, v) :: es => (k, named v) :: namedFields es

end

/-! ## Shapes -/

theorem namedEntries_eq (es : List (Value × Value)) :
    namedEntries es = Entries.mapValues named es := by
  induction es with
  | nil => rfl
  | cons e es ih => rw [namedEntries, ih]; rfl

theorem namedFields_eq (es : List (String × Value)) :
    namedFields es = Entries.mapValues named es := by
  induction es with
  | nil => rfl
  | cons e es ih => rw [namedFields, ih]; rfl

theorem isMapping_named (v : Value) : v.named.isMapping = v.isMapping := by
  cases v <;> rfl

mutual

theorem restore_named (label : Nat) (whole : Value) :
    (v : Value) → restore label whole.named v.named = (restore label whole v).named
  | again l isMapping => by
    by_cases h : l = label <;> simp [named, restore, h]
  | knot l content => by
    by_cases h : l = label <;> simp [named, restore, h, restore_named label whole content]
  | list items => by simp [named, restore, restoreItems_named label whole items]
  | tuple items => by simp [named, restore, restoreItems_named label whole items]
  | map entries => by simp [named, restore, restoreEntries_named label whole entries]
  | null | bool _ | int _ | float _ | nan _ | text _ | bytes _ | date _ | timestamp _ | set _
  | function _ | endpoint .. | property .. => by simp [named, restore]

theorem restoreItems_named (label : Nat) (whole : Value) :
    (vs : List Value) →
      restoreItems label whole.named (namedItems vs) = namedItems (restoreItems label whole vs)
  | [] => rfl
  | v :: vs => by
    simp [namedItems, restoreItems, restore_named label whole v, restoreItems_named label whole vs]

theorem restoreEntries_named (label : Nat) (whole : Value) :
    (es : List (Value × Value)) →
      restoreEntries label whole.named (namedEntries es) =
        namedEntries (restoreEntries label whole es)
  | [] => rfl
  | (k, v) :: es => by
    simp [namedEntries, restoreEntries, restore_named label whole v,
      restoreEntries_named label whole es]

end

theorem exposed_named (v : Value) : v.named.exposed = v.exposed.named := by
  cases v with
  | knot label content => exact restore_named label (knot label content) content
  | _ => rfl

mutual

theorem settle_named (labels : List Nat) :
    (v : Value) → settle labels v.named = (settle labels v).named
  | knot label content => by
    simp only [named, settle, isMapping_named]
    split
    · rfl
    · exact settle_named (label :: labels) content
  | list items => by simp [named, settle, settleItems_named labels items]
  | tuple items => by simp [named, settle, settleItems_named labels items]
  | map entries => by simp [named, settle, settleEntries_named labels entries]
  | null | bool _ | int _ | float _ | nan _ | text _ | bytes _ | date _ | timestamp _ | set _
  | function _ | again .. | endpoint .. | property .. => by simp [named, settle]

theorem settleItems_named (labels : List Nat) :
    (vs : List Value) → settleItems labels (namedItems vs) = namedItems (settleItems labels vs)
  | [] => rfl
  | v :: vs => by
    simp [namedItems, settleItems, settle_named labels v, settleItems_named labels vs]

theorem settleEntries_named (labels : List Nat) :
    (es : List (Value × Value)) →
      settleEntries labels (namedEntries es) = namedEntries (settleEntries labels es)
  | [] => rfl
  | (k, v) :: es => by
    simp [namedEntries, settleEntries, settle_named labels v, settleEntries_named labels es]

end

theorem settled_named (v : Value) : v.named.settled = v.settled.named := settle_named [] v

mutual

theorem isWritable_named : (v : Value) → v.named.isWritable = v.isWritable
  | list items => by simp [named, isWritable, areWritable_named items]
  | tuple items => by simp [named, isWritable, areWritable_named items]
  | set items => by simp [named, isWritable, areWritable_named items]
  | map entries => by simp [named, isWritable, areEntriesWritable_named entries]
  | knot _ content => by simp [named, isWritable, isWritable_named content]
  | endpoint _ _ extra => by simp [named, isWritable, areFieldsWritable_named extra]
  | property type id _ _ extra => by
    simp [named, isWritable, isWritable_named type, isWritable_named id,
      areFieldsWritable_named extra]
  | null | bool _ | int _ | float _ | nan _ | text _ | bytes _ | date _ | timestamp _
  | function _ | again .. => by simp [named, isWritable]

theorem areWritable_named : (vs : List Value) → areWritable (namedItems vs) = areWritable vs
  | [] => rfl
  | v :: vs => by simp [namedItems, areWritable, isWritable_named v, areWritable_named vs]

theorem areEntriesWritable_named :
    (es : List (Value × Value)) → areEntriesWritable (namedEntries es) = areEntriesWritable es
  | [] => rfl
  | (k, v) :: es => by
    simp [namedEntries, areEntriesWritable, isWritable_named v, areEntriesWritable_named es]

theorem areFieldsWritable_named :
    (es : List (String × Value)) → areFieldsWritable (namedFields es) = areFieldsWritable es
  | [] => rfl
  | (k, v) :: es => by
    simp [namedFields, areFieldsWritable, isWritable_named v, areFieldsWritable_named es]

end

end RemoteBindings.Value
