import RemoteBindings.Inflection.Rules
import RemoteBindings.Text.Case

/-!
# Plural of a name

`plural` gives the English plural of a name in the case of the name: an irregular word by the
table, an uncountable one unchanged, any other by the first rule that fits its end.
-/

namespace RemoteBindings.Inflection

def startsCapital (word : String) : Bool :=
  match word.toList with
  | [] => false
  | c :: _ => Text.upperChar c == [c]

/-- Puts `token` into the case of `word`: as it is if equal, all lower or all upper case if the word
is, a capital first if the word starts with one, and lower case otherwise. -/
def restoreCase (word token : String) : String :=
  if word = token then token
  else if word = Text.lower word then Text.lower token
  else if word = Text.upper word then Text.upper token
  else if startsCapital word then Text.capitalize token
  else Text.lower token

def Piece.expand (whole : List Char) (parts : List (Nat × List Char)) : Piece → List Char
  | letters cs => cs
  | part n => (parts.lookup n).getD []
  | found => whole

/-- Replaces the first piece that the rule finds. The replacement takes the case of what was found,
or of the character before it if nothing but the end of the word was found. -/
def Rule.apply? (r : Rule) (word : String) : Option String :=
  (r.pattern.find? word.toList).map fun (start, finish) =>
    let found := finish.since start
    let text := String.ofList (r.replacement.flatMap (Piece.expand found finish.parts))
    let model := if found.isEmpty then (start.before.take 1) else found
    String.ofList start.before.reverse ++ restoreCase (String.ofList model) text ++
      String.ofList finish.after

def plural (word : String) : String :=
  let token := Text.lower word
  if irregulars.any fun e => e.2 == token then restoreCase word token
  else match irregulars.lookup token with
    | some p => restoreCase word p
    | none =>
      if token = "" ∨ uncountables.contains token then word
      else (rules.findSome? fun r => r.apply? word).getD word

end RemoteBindings.Inflection
