import RemoteBindings.Entries

/-!
# Dynamic values

Descriptors are written by hand and by tools, so their fields hold arbitrary data: `Value` is what
a document or a caller may put there. Two constructors hold parts that have been validated before
and may be used again in a new descriptor (`endpoint`, `property`).
-/

namespace RemoteBindings

structure Date where
  year : Nat
  month : Nat
  day : Nat
deriving Repr, DecidableEq

/-- A moment of a day; `offset` is the distance from universal time in minutes, if it is known. -/
structure Timestamp where
  date : Date
  hour : Nat
  minute : Nat
  second : Nat
  microsecond : Nat
  offset : Option Int
deriving Repr, DecidableEq

inductive Value where
  | null
  | bool (b : Bool)
  | int (n : Int)
  | float (x : Float)
  /-- A float that is no number. Two of them are the same only if they have one origin. -/
  | nan (origin : Nat)
  | text (s : String)
  | bytes (bs : List UInt8)
  | date (d : Date)
  | timestamp (t : Timestamp)
  | list (items : List Value)
  | tuple (items : List Value)
  | set (items : List Value)
  | map (entries : List (Value × Value))
  /-- A constructor or other function of the described service, known by its name. -/
  | function (name : String)
  /-- A collection that may hold itself: inside it, `again` with its label stands for it. -/
  | knot (label : Nat) (content : Value)
  /-- One of the collections that this is inside of. -/
  | again (label : Nat) (isMapping : Bool)
  /-- A validated endpoint. -/
  | endpoint (verb : String) (path : Option String) (extra : List (String × Value))
  /-- A validated property. -/
  | property (type id : Value) (generated required : Bool) (extra : List (String × Value))

namespace Value

instance : Inhabited Value := ⟨null⟩

def ofText? : Option String → Value
  | none => null
  | some s => text s

/-- Whether a value counts as present where a default stands in for empty ones. -/
def isTruthy : Value → Bool
  | null => false
  | bool b => b
  | int n => n != 0
  | float x => !(x == 0.0)
  | text s => s != ""
  | bytes bs => !bs.isEmpty
  | list items => !items.isEmpty
  | tuple items => !items.isEmpty
  | set items => !items.isEmpty
  | map entries => !entries.isEmpty
  | knot _ content => content.isTruthy
  | nan _ | date _ | timestamp _ | function _ | again .. | endpoint .. | property .. => true

/-- A float, or what came from an origin where there should have been one. -/
def ofFloat (origin : Nat) (x : Float) : Value := if x.isNaN then nan origin else float x

/-- Whether a value is a given text. -/
def isText (s : String) : Value → Bool
  | text t => t == s
  | _ => false

/-- The value under a text key of a mapping. -/
def field? (key : String) : List (Value × Value) → Option Value
  | [] => none
  | (text k, v) :: rest => if k = key then some v else field? key rest
  | _ :: rest => field? key rest

/-- The fields of a validated endpoint, in declaration order, then its extra fields. -/
def endpointFields (verb : String) (path : Option String) (extra : List (String × Value)) :
    List (Value × Value) :=
  (text "verb", text verb) :: (text "path", ofText? path) :: extra.map fun e => (text e.1, e.2)

/-- The fields of a validated property, in declaration order, then its extra fields. -/
def propertyFields (type id : Value) (generated required : Bool) (extra : List (String × Value)) :
    List (Value × Value) :=
  (text "type", type) :: (text "id", id) :: (text "generated", bool generated) ::
    (text "required", bool required) :: extra.map fun e => (text e.1, e.2)

end Value

end RemoteBindings
