import RemoteBindings.Fault
import RemoteBindings.Journal.Record

/-!
# Runs

A `Run` is a piece of work that may stop at a fault: what it has reached by then, and what it has
reported. `Run.bind` goes on with a result unless there was a fault, `Run.each` works through a list
up to the first fault and keeps the items behind it as they are.
-/

namespace RemoteBindings

open Journal (Record)

structure Run (α : Type) where
  result : α
  records : List Record := []
  fault : Option Fault := none

namespace Run

variable {α β : Type}

/-- A report and no more. -/
def record (r : Record) (result : α) : Run α := ⟨result, [r], none⟩

/-- The work behind a fault is not done: `stopped` is made of what had been reached. -/
def bind (x : Run α) (stopped : α → β) (f : α → Run β) : Run β :=
  match x.fault with
  | some e => ⟨stopped x.result, x.records, some e⟩
  | none =>
    let y := f x.result
    ⟨y.result, x.records ++ y.records, y.fault⟩

def map (f : α → β) (x : Run α) : Run β := ⟨f x.result, x.records, x.fault⟩

/-- Reports something first. -/
def after (records : List Record) (x : Run α) : Run α := { x with records := records ++ x.records }

def each (f : α → Run α) : List α → Run (List α)
  | [] => ⟨[], [], none⟩
  | a :: as => (f a).bind (· :: as) fun b => (each f as).map (b :: ·)

/-- The result of a run without a fault. -/
def toExcept (x : Run α) : Except Fault α :=
  match x.fault with
  | some e => .error e
  | none => .ok x.result

end Run

end RemoteBindings
