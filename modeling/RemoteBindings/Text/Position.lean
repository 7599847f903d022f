/-!
# Positions in a text

`lineOf` and `columnOf` give the place of the character with a given index, both counted from one;
a line ends with its line feed.
-/

namespace RemoteBindings.Text

def lineOf (cs : List Char) (index : Nat) : Nat := (cs.take index).count '\n' + 1

def columnOf (cs : List Char) (index : Nat) : Nat :=
  ((cs.take index).reverse.takeWhile (· != '\n')).length + 1

end RemoteBindings.Text
