/-!
# Entries in order of arrival

A map whose order is observable is the list of its entries. `put` replaces the value of a present
key where it stands and appends a new key; `find?` reads the first entry of a key.
-/

namespace RemoteBindings

/-- The entries of a map, in order of arrival. -/
abbrev Entries (κ α : Type) := List (κ × α)

namespace Entries

variable {κ α β : Type} [BEq κ]

def put (key : κ) (value : α) : Entries κ α → Entries κ α
  | [] => [(key, value)]
  | e :: rest => if e.1 == key then (e.1, value) :: rest else e :: put key value rest

def find? (key : κ) : Entries κ α → Option α
  | [] => none
  | e :: rest => if e.1 == key then some e.2 else find? key rest

def hasKey (key : κ) (es : Entries κ α) : Bool := es.any fun e => e.1 == key

def erase (key : κ) (es : Entries κ α) : Entries κ α := es.filter fun e => !(e.1 == key)

/-- Puts the entries of a list one after the other: of equal keys the first place and the last
value remain. -/
def ofList (es : List (κ × α)) : Entries κ α := es.foldl (fun acc e => put e.1 e.2 acc) []

omit [BEq κ] in
def keys (es : Entries κ α) : List κ := es.map Prod.fst

omit [BEq κ] in
def values (es : Entries κ α) : List α := es.map Prod.snd

omit [BEq κ] in
def mapValues (f : α → β) (es : Entries κ α) : Entries κ β := es.map fun e => (e.1, f e.2)

end Entries

end RemoteBindings
