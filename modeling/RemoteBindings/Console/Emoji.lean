import RemoteBindings.Console.EmojiTable
import RemoteBindings.Text.Blank
import RemoteBindings.Text.Case

/-!
# Pictures by name

A name between colons stands for a picture: `:heart:`, or `:heart-emoji:` and `:heart-text:` with a
selector that asks for a colored or a plain form. `withEmoji` puts in the pictures; a name that is
not known stays with its colons.
-/

namespace RemoteBindings.Console

/-- The pairs of a row. -/
def pairsOf : List String → List (String × String)
  | name :: picture :: rest => (name, picture) :: pairsOf rest
  | _ => []

/-- The names of pictures, and what they stand for. -/
def emojiNames : List (String × String) :=
  emojiRows.flatMap fun row => pairsOf (Text.splitBlank row)

def emoji? (name : String) : Option String := emojiNames.lookup name

/-- A selector if the text begins with the end of a name, and what follows the end. -/
def nameEnd? : List Char → Option (List Char × List Char)
  | ':' :: rest => some ([], rest)
  | '-' :: 'e' :: 'm' :: 'o' :: 'j' :: 'i' :: ':' :: rest => some (['\uFE0F'], rest)
  | '-' :: 't' :: 'e' :: 'x' :: 't' :: ':' :: rest => some (['\uFE0E'], rest)
  | _ => none

theorem length_nameEnd {cs selector rest : List Char} (h : nameEnd? cs = some (selector, rest)) :
    rest.length < cs.length := by
  unfold nameEnd? at h
  split at h <;> simp at h <;> obtain ⟨-, rfl⟩ := h <;> simp <;> omega

/-- A name behind an opening colon. -/
structure Named where
  name : List Char
  selector : List Char
  /-- What follows the closing colon. -/
  rest : List Char

/-- The shortest name that is ended; it holds no white space. -/
def named? (cs : List Char) : Option Named :=
  match nameEnd? cs with
  | some (selector, rest) => some ⟨[], selector, rest⟩
  | none => match cs with
    | [] => none
    | c :: cs =>
      if Text.isBlank c then none else (named? cs).map fun n => { n with name := c :: n.name }

theorem length_named {cs : List Char} {n : Named} (h : named? cs = some n) :
    n.rest.length < cs.length := by
  induction cs generalizing n with
  | nil => simp [named?, nameEnd?] at h
  | cons c cs ih =>
    simp only [named?] at h
    split at h
    · cases h
      exact length_nameEnd ‹_›
    · split at h
      · cases h
      · obtain ⟨m, hm, rfl⟩ := Option.map_eq_some_iff.1 h
        have := ih hm
        exact Nat.lt_succ_of_lt this

/-- What a name between colons stands for. -/
def Named.shown (n : Named) (written : List Char) : List Char :=
  match emoji? (Text.lower (String.ofList n.name)) with
  | some picture => picture.toList ++ n.selector
  | none => written

/-- The text with pictures in the place of their names. -/
def withEmoji (cs : List Char) : List Char :=
  match cs with
  | [] => []
  | c :: cs =>
    if c = ':' then
      match h : named? cs with
      | some n =>
        have := length_named h
        n.shown (c :: cs.take (cs.length - n.rest.length)) ++ withEmoji n.rest
      | none => c :: withEmoji cs
    else c :: withEmoji cs
termination_by cs.length
decreasing_by all_goals simp_wf <;> omega

end RemoteBindings.Console
