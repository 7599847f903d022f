import RemoteBindings.Value.Display
import RemoteBindings.Value.Equal

/-!
# Violations of the schema

An `Issue` says where in a descriptor what is wrong, and with which value. `Checked` is the outcome
of a check: a typed part, or every issue found in it. Outcomes combine as an applicative functor
that goes on after a failure, so the issues of all parts come out in the order of the parts.
-/

namespace RemoteBindings.Descriptor

/-- One step on the way to a part: a name, or a position. -/
inductive Step where
  | key (name : String)
  | index (n : Int)
deriving Repr, DecidableEq

/-- Whether an integer has 64 bits or fewer. -/
def isWord (n : Int) : Bool := -0x8000000000000000 ≤ n && n < 0x8000000000000000

/-- The name of a key that is too long to be written. -/
def unwritableKey : String := "<unprintable int object>"

/-- The step to the value under a key of any kind: integers are positions, a key that is no text is
named by its literal. -/
def Step.ofKey : Value → Step
  | .text s => .key s
  | v => match v.integer? with
    | some n =>
      if isWord n then .index n else .key (if Value.isShort n then v.literal else unwritableKey)
    | none => .key v.literal

inductive Problem where
  /-- A field that must be given is absent. -/
  | missing
  | notText
  /-- Bytes where a text belongs, and not in UTF-8. -/
  | undecodableText
  /-- A number or a text that stands for no truth value. -/
  | unknownTruth
  | notTruth
  | notList
  | notMapping
  /-- No mapping where a part of the named kind belongs. -/
  | notPart (kind : String)
  | keyNotText
deriving Repr, DecidableEq

/-- The short name of a problem. -/
def Problem.code : Problem → String
  | missing => "missing"
  | notText => "string_type"
  | undecodableText => "string_unicode"
  | unknownTruth => "bool_parsing"
  | notTruth => "bool_type"
  | notList => "list_type"
  | notMapping => "dict_type"
  | notPart _ => "model_type"
  | keyNotText => "invalid_key"

def Problem.message : Problem → String
  | missing => "Field required"
  | notText => "Input should be a valid string"
  | undecodableText =>
    "Input should be a valid string, unable to parse raw data as a unicode string"
  | unknownTruth => "Input should be a valid boolean, unable to interpret input"
  | notTruth => "Input should be a valid boolean"
  | notList => "Input should be a valid list"
  | notMapping => "Input should be a valid dictionary"
  | notPart kind => "Input should be a valid dictionary or instance of " ++ kind
  | keyNotText => "Keys should be strings"

structure Issue where
  path : List Step
  problem : Problem
  /-- The value that has the problem: for a missing field the mapping that it is missing from. -/
  given : Value

inductive Checked (α : Type) where
  | accepted (a : α)
  | rejected (issues : List Issue)

namespace Checked

variable {α β : Type}

def fail (problem : Problem) (given : Value) : Checked α := rejected [⟨[], problem, given⟩]

def map (f : α → β) : Checked α → Checked β
  | accepted a => accepted (f a)
  | rejected is => rejected is

/-- Applies a checked function to a checked argument; the issues of both count. -/
def app : Checked (α → β) → Checked α → Checked β
  | accepted f, accepted a => accepted (f a)
  | accepted _, rejected is => rejected is
  | rejected is, accepted _ => rejected is
  | rejected is, rejected js => rejected (is ++ js)

instance : Applicative Checked where
  pure := accepted
  map := map
  seq f a := app f (a ())

/-- The outcome for a part that is reached by a step. -/
def under (step : Step) : Checked α → Checked α
  | accepted a => accepted a
  | rejected is => rejected (is.map fun i => { i with path := step :: i.path })

def issues : Checked α → List Issue
  | accepted _ => []
  | rejected is => is

end Checked

end RemoteBindings.Descriptor
