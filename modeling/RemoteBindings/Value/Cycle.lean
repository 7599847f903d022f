import RemoteBindings.Value.Basic

/-!
# Collections that hold themselves

A collection that holds itself is finite here: `Value.again` stands for it where it is met again.
`Value.exposed` shows its parts, each of them complete in itself, and `Value.settled` writes a value
out from its own place, so that a collection is left out only inside itself.
-/

namespace RemoteBindings.Value

mutual

/-- Puts a collection back where its label stands for it. -/
def restore (label : Nat) (whole : Value) : Value → Value
  | again l isMapping => if l = label then whole else again l isMapping
  | knot l content => if l = label then knot l content else knot l (restore label whole content)
  | list items => list (restoreItems label whole items)
  | tuple items => tuple (restoreItems label whole items)
  | map entries => map (restoreEntries label whole entries)
  | v => v

def restoreItems (label : Nat) (whole : Value) : List Value → List Value
  | [] => []
  | v :: vs => restore label whole v :: restoreItems label whole vs

def restoreEntries (label : Nat) (whole : Value) : List (Value × Value) → List (Value × Value)
  | [] => []
  | (k, v) :: es => (k, restore label whole v) :: restoreEntries label whole es

end

/-- A value as the collection that it is. -/
def exposed : Value → Value
  | knot label content => restore label (knot label content) content
  | v => v

def isMapping : Value → Bool
  | map _ => true
  | _ => false

mutual

/-- A value inside of the collections with the given labels. -/
def settle (labels : List Nat) : Value → Value
  | knot label content =>
    if labels.contains label then again label content.isMapping
    else settle (label :: labels) content
  | list items => list (settleItems labels items)
  | tuple items => tuple (settleItems labels items)
  | map entries => map (settleEntries labels entries)
  | v => v

def settleItems (labels : List Nat) : List Value → List Value
  | [] => []
  | v :: vs => settle labels v :: settleItems labels vs

def settleEntries (labels : List Nat) : List (Value × Value) → List (Value × Value)
  | [] => []
  | (k, v) :: es => (k, settle labels v) :: settleEntries labels es

end

/-- A value on its own, without the labels of its collections. -/
def settled (v : Value) : Value := settle [] v

mutual

/-- Whether a collection is met again inside itself. -/
def holdsAgain : Value → Bool
  | again .. => true
  | knot _ content => holdsAgain content
  | list items => anyAgain items
  | tuple items => anyAgain items
  | map entries => anyEntryAgain entries
  | _ => false

def anyAgain : List Value → Bool
  | [] => false
  | v :: vs => holdsAgain v || anyAgain vs

def anyEntryAgain : List (Value × Value) → Bool
  | [] => false
  | (_, v) :: es => holdsAgain v || anyEntryAgain es

end

end RemoteBindings.Value
