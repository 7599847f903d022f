import RemoteBindings.Descriptor.Issue
import RemoteBindings.Value.Cycle

/-!
# Checks of fields

The parts of a descriptor are mappings whose fields have a name and sometimes a second, preferred
one (`Field`). `Field.required`, `Field.optional` and `extraFields` check one field each and what no
field claims; the other checks are those of single values.
-/

namespace RemoteBindings.Descriptor

abbrev Mapping := List (Value × Value)

abbrev Check (α : Type) := Value → Checked α

/-- Text, or bytes that hold text in UTF-8. -/
def checkText : Check String
  | .text s => .accepted s
  | .bytes bs => match String.fromUTF8? ⟨bs.toArray⟩ with
    | some s => .accepted s
    | none => .fail .undecodableText (.bytes bs)
  | v => .fail .notText v

def checkOptionalText : Check (Option String)
  | .null => .accepted none
  | v => (checkText v).map some

def falseWords : List String := ["0", "off", "f", "false", "n", "no"]

def trueWords : List String := ["1", "on", "t", "true", "y", "yes"]

def truthOfText? (s : String) : Option Bool :=
  let word := String.ofList (s.toList.map Char.toLower)
  if falseWords.contains word then some false
  else if trueWords.contains word then some true
  else none

/-- Zero and one stand for truth values. -/
def truthOfNumber? (n : Int) : Option Bool :=
  if n = 0 then some false else if n = 1 then some true else none

/-- The truth value that `v` has been read as. -/
def readTruth (v : Value) : Option Bool → Checked Bool
  | some b => .accepted b
  | none => .fail .unknownTruth v

/-- Texts and numbers within 64 bits are read; other values are no truth values. -/
def checkTruth : Check Bool
  | .bool b => .accepted b
  | .text s => readTruth (.text s) (truthOfText? s)
  | .bytes bs => readTruth (.bytes bs) ((String.fromUTF8? ⟨bs.toArray⟩).bind truthOfText?)
  | .int n => if isWord n then readTruth (.int n) (truthOfNumber? n) else .fail .notTruth (.int n)
  | .float x => match Decimal.wholeValue? x with
    | some n =>
      if isWord n && isWord (-n) then readTruth (.float x) (truthOfNumber? n)
      else .fail .notTruth (.float x)
    | none => .fail .notTruth (.float x)
  | v => .fail .notTruth v

def checkAny : Check Value := fun v => .accepted v.settled

/-- The items of a value that counts as a list: lists, tuples and sets, and the fields of a
validated part as pairs. -/
def itemsOf? (v : Value) : Option (List Value) :=
  match v.exposed with
  | .list items => some items
  | .tuple items => some items
  | .set items => some items
  | .endpoint verb path extra =>
    some ((Value.endpointFields verb path extra).map fun e => .tuple [e.1, e.2])
  | .property type id generated required extra =>
    some ((Value.propertyFields type id generated required extra).map fun e => .tuple [e.1, e.2])
  | _ => none

def checkItems {α : Type} (check : Check α) : Nat → List Value → Checked (List α)
  | _, [] => .accepted []
  | n, v :: vs => List.cons <$> (check v).under (.index n) <*> checkItems check (n + 1) vs

def checkList {α : Type} (check : Check α) : Check (List α) := fun v =>
  match itemsOf? v with
  | some items => checkItems check 0 items
  | none => .fail .notList v

def checkEntries {α : Type} (check : Check α) : Mapping → Checked (List (String × α))
  | [] => .accepted []
  | (k, v) :: es =>
    (fun key value rest => (key, value) :: rest) <$>
      ((checkText k).under (.key "[key]")).under (Step.ofKey k) <*>
      (check v).under (Step.ofKey k) <*> checkEntries check es

/-- A mapping from texts. -/
def checkMapping {α : Type} (check : Check α) : Check (Entries String α) := fun v =>
  match v.exposed with
  | .map es => (checkEntries check es).map Entries.ofList
  | _ => .fail .notMapping v

/-- A field of a part: the two names it may be given by. -/
structure Field where
  preferred : String
  name : String

/-- A field with one name. -/
def plain (name : String) : Field := ⟨name, name⟩

/-- The name by which a field is given, and its value. -/
def Field.locate? (f : Field) (es : Mapping) : Option (String × Value) :=
  match Value.field? f.preferred es with
  | some v => some (f.preferred, v)
  | none => (Value.field? f.name es).map (f.name, ·)

def Field.required {α : Type} (f : Field) (check : Check α) (es : Mapping) : Checked α :=
  match f.locate? es with
  | some (name, v) => (check v).under (.key name)
  | none => (Checked.fail .missing (.map es)).under (.key f.preferred)

def Field.optional {α : Type} (f : Field) (default : α) (check : Check α) (es : Mapping) :
    Checked α :=
  match f.locate? es with
  | some (name, v) => (check v).under (.key name)
  | none => .accepted default

def Field.claims (es : Mapping) (name : String) (f : Field) : Bool :=
  match f.locate? es with
  | some (used, _) => used == name
  | none => false

/-- The entries that no field claims, in their order; their keys have to be texts, and bytes are
none. -/
def extraEntries (fields : List Field) (all : Mapping) : Mapping → Checked (List (String × Value))
  | [] => .accepted []
  | (.text name, v) :: es =>
    if fields.any (Field.claims all name) then extraEntries fields all es
    else ((name, v.settled) :: ·) <$> extraEntries fields all es
  | (k, _) :: es =>
    (fun (_ : Unit) rest => rest) <$> (Checked.fail .keyNotText k).under (Step.ofKey k) <*>
      extraEntries fields all es

def extraFields (fields : List Field) (es : Mapping) : Checked (Entries String Value) :=
  (extraEntries fields es es).map Entries.ofList

/-- A part of the named kind: its fields are checked if the value is a mapping. -/
def checkPart {α : Type} (kind : String) (check : Mapping → Checked α) : Check α := fun v =>
  match v.exposed with
  | .map es => check es
  | _ => .fail (.notPart kind) v

end RemoteBindings.Descriptor
