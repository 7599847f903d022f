/-!
# Sets of characters as ranges

A property of characters is carried as a list of closed ranges of code points, ascending and
apart. `Ranges.contains` looks a character up.
-/

namespace RemoteBindings.Text

/-- Closed ranges of code points. -/
abbrev Ranges := List (Nat × Nat)

def Ranges.contains (rs : Ranges) (c : Char) : Bool :=
  rs.any fun r => r.1 ≤ c.toNat && c.toNat ≤ r.2

end RemoteBindings.Text
