import RemoteBindings.Yaml.Problem

/-!
# Tokens in their places

The tokens of a text stand in order, each with the places where it begins and ends. Behind the last
one the text ends or cannot be read any further (`Ending`); what stands before counts first.
-/

namespace RemoteBindings.Yaml

structure Lexeme where
  token : Token
  start : Mark
  stop : Mark
deriving Repr, DecidableEq

inductive Ending where
  | complete (place : Mark)
  | broken (p : Problem)
deriving Repr, DecidableEq

structure Lexemes where
  lexemes : List Lexeme
  ending : Ending
deriving Repr, DecidableEq

namespace Lexemes

def drop (ls : Lexemes) : Lexemes := { ls with lexemes := ls.lexemes.drop 1 }

/-- The next token, or none at the end of the text, and its place. -/
def next (ls : Lexemes) : Result (Option Token × Mark) :=
  match ls.lexemes, ls.ending with
  | l :: _, _ => .ok (l.token, l.start)
  | [], .complete place => .ok (none, place)
  | [], .broken p => .error p

/-- Looks at the next token, whatever it is. -/
def demand (ls : Lexemes) : Result Unit := ls.next.map fun _ => ()

/-- Whether the next token is one of some kind. -/
def nextIs (ls : Lexemes) (p : Token → Bool) : Bool :=
  match ls.lexemes with
  | [] => false
  | l :: _ => p l.token

/-- Something else belongs here than the next token. -/
def expects {α : Type} (ls : Lexemes) (context : Context) (what : Expected) : Result α := do
  let (t, place) ← ls.next
  refuse context (.expected what (.token t)) place

end Lexemes

end RemoteBindings.Yaml
