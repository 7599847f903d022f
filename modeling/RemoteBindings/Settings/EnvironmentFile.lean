import RemoteBindings.Entries
import RemoteBindings.Text.Blank

/-!
# Environment files

A line of an environment file sets a variable: `NAME=value`, perhaps behind `export`. A value may be
quoted, and then hold line breaks and escapes; a bare value ends before a comment. Where a line has
another form, the rest of it is passed over (`takeBinding`), and `unreadableLines` tells where that
happens. At last `${NAME}` in a value gives way to the variable of that name, from the file or from
around it (`expand`).
-/

namespace RemoteBindings.EnvironmentFile

open Text (isBlank)

def isLineBreak (c : Char) : Bool := c == '\n' || c == '\r'

def isInnerBlank (c : Char) : Bool := isBlank c && !isLineBreak c

/-- What is read at the head of a text, and what follows it; or the text from the place on where it
has another form. -/
abbrev Taken (α : Type) := Except (List Char) (α × List Char)

/-- The text up to a closing quote, escapes untouched, and what follows. What comes after a
backslash does not close. -/
def takeQuoted? (quote : Char) : List Char → Option (List Char × List Char)
  | [] => none
  | ['\\'] => none
  | '\\' :: c :: cs => (takeQuoted? quote cs).map fun (inner, rest) => ('\\' :: c :: inner, rest)
  | c :: cs =>
    if c = quote then some ([], cs)
    else (takeQuoted? quote cs).map fun (inner, rest) => (c :: inner, rest)

/-- The character of an escape between double quotes. -/
def doubleEscape? : Char → Option Char
  | '\\' => some '\\'
  | '\'' => some '\''
  | '"' => some '"'
  | 'a' => some '\x07'
  | 'b' => some '\x08'
  | 'f' => some '\x0c'
  | 'n' => some '\n'
  | 'r' => some '\r'
  | 't' => some '\t'
  | 'v' => some '\x0b'
  | _ => none

/-- The character of an escape between single quotes. -/
def singleEscape? : Char → Option Char
  | '\\' => some '\\'
  | '\'' => some '\''
  | _ => none

/-- Replaces escapes; other backslashes stay. -/
def unescape (escape? : Char → Option Char) : List Char → List Char
  | [] => []
  | '\\' :: c :: cs =>
    match escape? c with
    | some x => x :: unescape escape? cs
    | none => '\\' :: unescape escape? (c :: cs)
  | c :: cs => c :: unescape escape? cs

/-- A bare value without a comment, which needs a blank before it. -/
def dropComment : List Char → List Char
  | [] => []
  | c :: cs =>
    if isBlank c && (cs.dropWhile isBlank).head? == some '#' then [] else c :: dropComment cs

/-- A value in quotes, behind the first one; `cs` is the text from that quote on. -/
def takeQuotedValue (cs : List Char) (quote : Char) (escape? : Char → Option Char)
    (rest : List Char) : Taken (List Char) :=
  match takeQuoted? quote rest with
  | some (value, rest) => .ok (unescape escape? value, rest)
  | none => .error cs

/-- The value behind an equals sign; blanks around it do not belong to it. -/
def takeValue (cs : List Char) : Taken (List Char) :=
  let start := cs.dropWhile isInnerBlank
  match start with
  | '\'' :: rest => takeQuotedValue start '\'' singleEscape? rest
  | '"' :: rest => takeQuotedValue start '"' doubleEscape? rest
  | _ =>
    let line := cs.takeWhile fun c => !isLineBreak c
    .ok (Text.trimBlankChars (dropComment line), cs.dropWhile fun c => !isLineBreak c)

def exportWord : List Char := "export".toList

/-- Passes the word `export` and the blanks behind it. -/
def dropExport (cs : List Char) : List Char :=
  if exportWord.isPrefixOf cs then
    let rest := cs.drop exportWord.length
    match rest with
    | [] => cs
    | c :: _ => if isInnerBlank c then rest.dropWhile isInnerBlank else cs
  else cs

def isNameChar (c : Char) : Bool := c != '=' && c != '#' && !isBlank c

/-- The name at the head of a line, in single quotes or bare; a comment has none. -/
def takeName (cs : List Char) : Taken (Option (List Char)) :=
  match cs with
  | '#' :: _ => .ok (none, cs)
  | '\'' :: rest =>
    match rest.takeWhile (· != '\''), rest.dropWhile (· != '\'') with
    | c :: name, _ :: rest => .ok (some (c :: name), rest)
    | _, _ => .error cs
  | _ =>
    match cs.takeWhile isNameChar with
    | [] => .error cs
    | name => .ok (some name, cs.dropWhile isNameChar)

/-- The value behind a name; a name alone has none. -/
def takeAssigned (cs : List Char) : Taken (Option (List Char)) :=
  match cs.dropWhile isInnerBlank with
  | '=' :: rest => (takeValue rest).map fun (v, cs) => (some v, cs)
  | cs => .ok (none, cs)

/-- The text behind the rest of a line, which holds blanks and a comment, or nothing. -/
def takeEnd (cs : List Char) : Except (List Char) (List Char) :=
  let cs := cs.dropWhile isInnerBlank
  let cs := if cs.head? = some '#' then cs.dropWhile fun c => !isLineBreak c else cs
  match cs with
  | [] => .ok []
  | c :: rest => if isLineBreak c then .ok rest else .error cs

/-- A name with its value; a name alone has none. -/
structure Binding where
  name : Option String
  value : Option String
deriving Repr, DecidableEq

/-- A binding at the head of a text. -/
def takeBinding (cs : List Char) : Except (List Char) (Binding × List Char) := do
  let (name, cs) ← takeName (dropExport cs)
  let (value, cs) ← takeAssigned cs
  let cs ← takeEnd cs
  return (⟨name.map String.ofList, value.map String.ofList⟩, cs)

def dropLine (cs : List Char) : List Char := (cs.dropWhile fun c => !isLineBreak c).drop 1

/-- What stands on a line, or on several if a quoted value runs over them. -/
inductive Statement where
  | binding (b : Binding)
  /-- Something else, on the line of this number or behind it. -/
  | unreadable (line : Nat)
deriving Repr, DecidableEq

/-- The number of line breaks in front of the rest of a text. -/
def breaksBefore (rest cs : List Char) : Nat := (cs.take (cs.length - rest.length)).count '\n'

/-- The statements of a text that begins on a line; blanks count to the statement behind them.
Every step passes a character, so the length of the text bounds the steps. -/
def statements : Nat → Nat → List Char → List Statement
  | 0, _, _ => []
  | fuel + 1, line, cs =>
    let start := cs.dropWhile isBlank
    if start.isEmpty then []
    else match takeBinding start with
      | .ok (b, rest) => .binding b :: statements fuel (line + breaksBefore rest cs) rest
      | .error place =>
        let rest := dropLine place
        .unreadable line :: statements fuel (line + breaksBefore rest cs) rest

def byteOrderMark : Char := '\uFEFF'

/-- The statements of a file, in which a mark of the byte order may come first. -/
def statementsOf (text : String) : List Statement :=
  let cs := text.toList
  let cs := if cs.head? = some byteOrderMark then cs.drop 1 else cs
  statements (cs.length + 1) 1 cs

def bindings (text : String) : List Binding :=
  (statementsOf text).filterMap fun s =>
    match s with
    | .binding b => some b
    | .unreadable _ => none

/-- The lines on or behind which the statements begin that are passed over. -/
def unreadableLines (text : String) : List Nat :=
  (statementsOf text).filterMap fun s =>
    match s with
    | .binding _ => none
    | .unreadable line => some line

/-! ## Variables in values -/

/-- What stands between braces: a name, and perhaps a default behind `:-`. -/
structure Reference where
  name : List Char
  default : List Char

/-- Reads a reference behind its opening brace. -/
def takeReference? (cs : List Char) : Option (Reference × List Char) :=
  let isEnd (c : Char) : Bool := c == '\x7d'
  let name := cs.takeWhile fun c => !isEnd c && c != ':'
  match cs.drop name.length with
  | ':' :: '-' :: rest =>
    match rest.dropWhile fun c => !isEnd c with
    | _ :: after => some (⟨name, rest.takeWhile fun c => !isEnd c⟩, after)
    | [] => none
  | c :: after => if isEnd c then some (⟨name, []⟩, after) else none
  | [] => none

abbrev Variables := Entries String (Option String)

def Reference.value (r : Reference) (known : Variables) : List Char :=
  match Entries.find? (String.ofList r.name) known with
  | none => r.default
  | some v => (v.getD "").toList

/-- Replaces the references in a value. -/
def expand (known : Variables) : Nat → List Char → List Char
  | 0, cs => cs
  | _ + 1, [] => []
  | fuel + 1, '$' :: '\x7b' :: cs =>
    match takeReference? cs with
    | some (r, rest) => r.value known ++ expand known fuel rest
    | none => '$' :: expand known fuel ('\x7b' :: cs)
  | fuel + 1, c :: cs => c :: expand known fuel cs

def expandText (known : Variables) (s : String) : String :=
  String.ofList (expand known (s.length + 1) s.toList)

/-- The variables that bindings set; `around` holds those that are set already, over which the file
wins in its own values. -/
def resolve (around : Variables) : Variables → List Binding → Variables
  | set, [] => set
  | set, b :: bs =>
    match b.name with
    | none => resolve around set bs
    | some name =>
      let known := set.foldl (fun acc e => Entries.put e.1 e.2 acc) around
      resolve around (Entries.put name (b.value.map (expandText known)) set) bs

/-- The variables of a file. -/
def read (around : Entries String String) (text : String) : Variables :=
  resolve (Entries.mapValues some around) [] (bindings text)

end RemoteBindings.EnvironmentFile
