import RemoteBindings.Console.Literal.Token

/-!
# Literals

A literal is a number, a text, one of a few names, or a tuple, set or dictionary of literals.
`isLiteral` says whether a text is one. What sets hold and what dictionaries have as keys must be
fixed: no sets or dictionaries (`Kind`).
-/

namespace RemoteBindings.Console.Literal

/-- What a literal is, as far as it decides where it may stand. -/
inductive Kind where
  | real
  | imaginary
  /-- A real number behind a sign. -/
  | signedReal
  /-- Texts, names, other numbers, and tuples of what is fixed. -/
  | fixed
  /-- Sets, dictionaries, and tuples that hold them. -/
  | changeable
deriving Repr, DecidableEq

/-- The kind of a tuple. -/
def Kind.ofTuple (kinds : List Kind) : Kind :=
  if kinds.contains .changeable then .changeable else .fixed

def Kind.isFixed (k : Kind) : Bool := k != .changeable

def isSign (t : Token) : Bool := t == .mark '+' || t == .mark '-'

def isName (name : String) : Bool := ["None", "True", "False"].contains name

/-- The texts that follow a text are joined to it; they must be of its kind. -/
def afterTexts? (isBytes : Bool) : List Token → Option (List Token)
  | .text b :: ts => if b = isBytes then afterTexts? isBytes ts else none
  | ts => some ts

abbrev Read := Option (Kind × List Token)

mutual

/-- A literal without signs. -/
def readPlain : Nat → List Token → Read
  | 0, _ => none
  | _, .number isImaginary :: ts => some (if isImaginary then .imaginary else .real, ts)
  | _, .text isBytes :: ts => (afterTexts? isBytes ts).map (.fixed, ·)
  | _, .dots :: ts => some (.fixed, ts)
  | _, .word "set" :: .mark '(' :: .mark ')' :: ts => some (.changeable, ts)
  | _, .word name :: ts => if isName name then some (.fixed, ts) else none
  | _, .mark '(' :: .mark ')' :: ts => some (.fixed, ts)
  | fuel + 1, .mark '(' :: ts => match readLiteral fuel ts with
    | some (k, .mark ')' :: ts) => some (k, ts)
    | some (k, .mark ',' :: ts) => match readItems fuel ts with
      | some (ks, .mark ')' :: ts) => some (Kind.ofTuple (k :: ks), ts)
      | _ => none
    | _ => none
  | _, .mark '\x7b' :: .mark '\x7d' :: ts => some (.changeable, ts)
  | fuel + 1, .mark '\x7b' :: ts => match readLiteral fuel ts with
    | some (k, .mark ':' :: ts) => if k.isFixed then readPairs fuel ts else none
    | some (k, .mark '\x7d' :: ts) => if k.isFixed then some (.changeable, ts) else none
    | some (k, .mark ',' :: ts) => match readItems fuel ts with
      | some (ks, .mark '\x7d' :: ts) =>
        if (k :: ks).all Kind.isFixed then some (.changeable, ts) else none
      | _ => none
    | _ => none
  | _, _ => none

/-- A literal. A sign stands before a number only, and one between a real and an imaginary one. -/
def readLiteral : Nat → List Token → Read
  | 0, _ => none
  | _, [] => none
  | fuel + 1, t :: ts => do
    let (kind, rest) ←
      if isSign t then
        match readPlain fuel ts with
        | some (.real, rest) => some (.signedReal, rest)
        | some (.imaginary, rest) => some (.fixed, rest)
        | _ => none
      else readPlain fuel (t :: ts)
    match rest with
    | [] => some (kind, [])
    | sign :: more =>
      if !isSign sign then some (kind, rest)
      else if kind = .real || kind = .signedReal then
        match readPlain fuel more with
        | some (.imaginary, rest) =>
          if (rest.head?.map isSign).getD false then none else some (.fixed, rest)
        | _ => none
      else none

/-- Literals parted by commas, up to a token that begins none. -/
def readItems : Nat → List Token → Option (List Kind × List Token)
  | 0, _ => none
  | _, [] => some ([], [])
  | fuel + 1, t :: ts =>
    if t = .mark ')' || t = .mark '\x7d' then some ([], t :: ts)
    else match readLiteral fuel (t :: ts) with
      | some (k, .mark ',' :: ts) => (readItems fuel ts).map fun (ks, ts) => (k :: ks, ts)
      | some (k, ts) => some ([k], ts)
      | none => none

/-- The rest of a dictionary from the value of an entry on. -/
def readPairs : Nat → List Token → Read
  | 0, _ => none
  | fuel + 1, ts => match readLiteral fuel ts with
    | some (_, .mark '\x7d' :: ts) | some (_, .mark ',' :: .mark '\x7d' :: ts) =>
      some (.changeable, ts)
    | some (_, .mark ',' :: ts) => match readLiteral fuel ts with
      | some (k, .mark ':' :: ts) => if k.isFixed then readPairs fuel ts else none
      | _ => none
    | _ => none

end

/-- Whether tokens make up a literal. A tuple need not be in parentheses. Every reader passes on at
most one step of fuel per token, three times over. -/
def areLiteral (ts : List Token) : Bool :=
  let fuel := 3 * ts.length + 3
  match readLiteral fuel ts with
  | some (_, []) => true
  | some (_, .mark ',' :: ts) => match readItems fuel ts with
    | some (_, []) => true
    | _ => false
  | _ => false

/-- Whether a text is a literal. -/
def isLiteral (cs : List Char) : Bool :=
  !cs.contains '\x00' && ((tokensOf? cs).map areLiteral).getD false

end RemoteBindings.Console.Literal
