import RemoteBindings.CommandLine.Help
import RemoteBindings.Text.Quoted
import RemoteBindings.Text.Similarity

/-!
# Arguments of the command line

`Request.ofArguments` says what a list of arguments asks for. The options of the program come before
the name of the command, those of the command anywhere behind it; after `--` nothing is an option.
-/

namespace RemoteBindings.CommandLine

/-- What is wrong with a command line; a command, or none for the program, is where it is found. -/
inductive UsageError where
  | unknownOption (c : Option Command) (name : String)
  | needsValue (name : String)
  | takesNoValue (name : String)
  | missingCommand
  | unknownCommand (name : String)
  | missingArgument (c : Command)
  | extraArguments (c : Command) (first : String) (others : List String)
deriving Repr, DecidableEq

def isLong (arg : String) : Bool := ['-', '-'].isPrefixOf arg.toList

namespace UsageError

/-- The command whose usage is shown with an error, if any is. -/
def place? : UsageError → Option (Option Command)
  | unknownOption c _ => some c
  | needsValue _ | takesNoValue _ => none
  | missingCommand | unknownCommand _ => some none
  | missingArgument c => some (some c)
  | extraArguments c _ _ => some (some c)

/-- The names that may have been meant, behind a message. -/
def suggestion (names : List String) : String :=
  match names with
  | [] => ""
  | [name] => " Did you mean " ++ Text.quoted name ++ "?"
  | names =>
    " (Did you mean one of: " ++ String.intercalate ", " (names.map Text.quoted) ++ "?)"

/-- The long options that a long name may have been meant for. -/
def similarOptions (c : Option Command) (name : String) : List String :=
  if isLong name then Text.closest name ((switches c).map Switch.long) else []

def text : UsageError → String
  | unknownOption c name =>
    "No such option " ++ Text.quoted name ++ "." ++ suggestion (similarOptions c name)
  | needsValue name => "Option " ++ Text.quoted name ++ " requires an argument."
  | takesNoValue name => "Option " ++ Text.quoted name ++ " does not take a value."
  | missingCommand => "Missing command."
  | unknownCommand name =>
    "No such command " ++ Text.quoted name ++ "." ++
      suggestion (Text.closest name (Command.all.map Command.name))
  | missingArgument _ => "Missing argument 'DESCRIPTOR_PATH'."
  | extraArguments _ first [] => "Got unexpected extra argument (" ++ first ++ ")"
  | extraArguments _ first others =>
    "Got unexpected extra arguments (" ++ String.intercalate " " (first :: others) ++ ")"

def message (e : UsageError) : String :=
  (match e.place? with
    | none => ""
    | some c => usageLine c ++ "Try '" ++ invokedName c ++ " --help' for help.\n\n") ++
    "Error: " ++ e.text ++ "\n"

end UsageError

/-- Options with their values, an empty one for those that take none, and the other arguments. -/
structure Given where
  options : List (Switch × String) := []
  operands : List String := []
deriving Repr, DecidableEq

def Given.addOption (g : Given) (s : Switch) (value : String) : Given :=
  { g with options := (s, value) :: g.options }

def Given.addOperand (g : Given) (s : String) : Given := { g with operands := s :: g.operands }

/-- The value of the option given last. -/
def Given.value? (g : Given) (s : Switch) : Option String :=
  ((g.options.filter fun e => e.1 == s).getLast?).map Prod.snd

def Given.has (g : Given) (s : Switch) : Bool := g.options.any fun e => e.1 == s

/-- The name of a long option, and the value that is attached to it. -/
def splitValue (arg : String) : String × Option String :=
  let cs := arg.toList
  match cs.dropWhile (· != '=') with
  | [] => (arg, none)
  | _ :: value => (String.ofList (cs.takeWhile (· != '=')), some (String.ofList value))

def isOption (arg : String) : Bool :=
  match arg.toList with
  | '-' :: _ :: _ => true
  | _ => false

/-- The options that the letters of a short argument name. -/
def lettersOf (c : Option Command) : List Char → Except UsageError (List Switch)
  | [] => .ok []
  | x :: xs =>
    match (switches c).find? fun s => s.letter == some x with
    | none => .error (.unknownOption c (String.ofList ['-', x]))
    | some s => (lettersOf c xs).map (s :: ·)

/-- Sorts arguments into options and operands. With `leading`, options end at the first operand. -/
def sort (c : Option Command) (leading : Bool) : List String → Except UsageError Given
  | [] => .ok {}
  | arg :: args =>
    if arg = "--" then .ok { operands := args }
    else if isOption arg then
      let (name, attached) := splitValue arg
      match (switches c).find? fun s => s.long == name with
      | some s =>
        if s.takesValue then
          match attached with
          | some value => (sort c leading args).map fun g => g.addOption s value
          | none => match args with
            | value :: rest => (sort c leading rest).map fun g => g.addOption s value
            | [] => .error (.needsValue name)
        else if attached.isSome then .error (.takesNoValue name)
        else (sort c leading args).map fun g => g.addOption s ""
      | none =>
        if isLong arg then .error (.unknownOption c name)
        else match lettersOf c (arg.toList.drop 1) with
          | .error e => .error e
          | .ok ss => (sort c leading args).map fun g =>
              { g with options := ss.map (·, "") ++ g.options }
    else if leading then .ok { operands := arg :: args }
    else (sort c leading args).map fun g => g.addOperand arg

/-- What a command line asks for. -/
inductive Request where
  | help (c : Option Command)
  /-- Nothing is asked for, so help is shown as an error. -/
  | nothing
  | wrong (e : UsageError)
  | run (c : Command) (path : String) (given : Given)
deriving Repr, DecidableEq

/-- What the arguments behind the name of a command ask for. -/
def Request.ofCommand (c : Command) (args : List String) : Request :=
  match sort (some c) false args with
  | .error e => .wrong e
  | .ok g =>
    if g.has helpSwitch then .help (some c)
    else match g.operands with
      | [] => .wrong (.missingArgument c)
      | [path] => .run c path g
      | _ :: first :: others => .wrong (.extraArguments c first others)

/-- Whether a word that is no command looks like an option: it begins with a mark. -/
def looksLikeOption (word : String) : Bool :=
  match word.toList with
  | [] => false
  | x :: _ => !x.isAlphanum

/-- A word that is no command. If it looks like an option it is taken for one of the program. -/
def Request.ofUnknown (word : String) (args : List String) : Request :=
  if looksLikeOption word then
    match sort none true (word :: args) with
    | .error e => .wrong e
    | .ok g => if g.has helpSwitch then .help none else .wrong (.unknownCommand word)
  else .wrong (.unknownCommand word)

def Request.ofArguments (args : List String) : Request :=
  if args.isEmpty then .nothing
  else match sort none true args with
    | .error e => .wrong e
    | .ok g =>
      if g.has helpSwitch then .help none
      else match g.operands with
        | [] => .wrong .missingCommand
        | word :: args => match Command.ofName? word with
          | some c => .ofCommand c args
          | none => .ofUnknown word args

end RemoteBindings.CommandLine
