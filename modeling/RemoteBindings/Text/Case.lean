import RemoteBindings.Text.CaseTable

/-!
# Upper and lower case

`upper` and `lower` map whole texts: one character may become several (`ß` becomes `SS`), and a
capital sigma becomes the final form `ς` where it ends a word (`isFinalSigma`). Below U+0080 both
are the ASCII maps, so `upperChar_ascii` and `lowerChar_ascii` hold by definition.
-/

namespace RemoteBindings.Text

def isAscii (c : Char) : Bool := c.toNat < 0x80

def upperChar (c : Char) : List Char :=
  if isAscii c then [c.toUpper]
  else match upperExpansions.lookup c.toNat with
    | some ns => ns.map Char.ofNat
    | none => [((CaseRun.image? upperRuns c.toNat).map Char.ofNat).getD c]

/-- The lower case of a character outside any context. The dotted capital I keeps its dot as a
combining character. -/
def lowerChar (c : Char) : List Char :=
  if isAscii c then [c.toLower]
  else if c = 'İ' then ['i', '\u0307']
  else [((CaseRun.image? lowerRuns c.toNat).map Char.ofNat).getD c]

theorem upperChar_ascii {c : Char} (h : isAscii c = true) : upperChar c = [c.toUpper] := by
  simp [upperChar, h]

theorem lowerChar_ascii {c : Char} (h : isAscii c = true) : lowerChar c = [c.toLower] := by
  simp [lowerChar, h]

/-- Whether the first character that is not ignored for casing is a cased letter. -/
def startsCased (cs : List Char) : Bool :=
  match cs.dropWhile ignorableRanges.contains with
  | [] => false
  | c :: _ => casedRanges.contains c

/-- A sigma is final after a cased letter and before none; `before` is read backwards. -/
def isFinalSigma (before after : List Char) : Bool :=
  startsCased before && !startsCased after

/-- The lower case of a text whose characters `before` have been passed, nearest first. -/
def lowerAfter (before : List Char) : List Char → List Char
  | [] => []
  | c :: after =>
    (if c = 'Σ' then [if isFinalSigma before after then 'ς' else 'σ'] else lowerChar c) ++
      lowerAfter (c :: before) after

def lowerChars (cs : List Char) : List Char := lowerAfter [] cs

def upperChars (cs : List Char) : List Char := cs.flatMap upperChar

def lower (s : String) : String := String.ofList (lowerChars s.toList)

def upper (s : String) : String := String.ofList (upperChars s.toList)

/-- Raises the first character and keeps the rest. -/
def upperFirst (s : String) : String :=
  match s.toList with
  | [] => ""
  | c :: cs => String.ofList (upperChar c ++ cs)

/-- Raises the first character and lowers the rest. -/
def capitalize (s : String) : String :=
  match s.toList with
  | [] => ""
  | c :: cs => String.ofList (upperChar c ++ lowerChars cs)

end RemoteBindings.Text
