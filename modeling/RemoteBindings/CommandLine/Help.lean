/-!
# Commands and their help

The commands of the program with their options (`switches`), and the texts that describe them.
-/

namespace RemoteBindings.CommandLine

inductive Command where
  | validate
  | inspect
  | generate
deriving Repr, DecidableEq

namespace Command

def all : List Command := [validate, inspect, generate]

def name : Command → String
  | validate => "validate"
  | inspect => "inspect"
  | generate => "generate"

def ofName? (s : String) : Option Command := all.find? fun c => c.name == s

end Command

/-- An option: its long name, its letter if it has one, and whether a value follows it. -/
structure Switch where
  long : String
  letter : Option Char
  takesValue : Bool
deriving Repr, DecidableEq

def helpSwitch : Switch := ⟨"--help", none, false⟩
def prefixSwitch : Switch := ⟨"--prefix", none, true⟩
def outSwitch : Switch := ⟨"--out", none, true⟩
def templatesSwitch : Switch := ⟨"--templates", none, true⟩
def verboseSwitch : Switch := ⟨"--verbose", some 'v', false⟩
def quietSwitch : Switch := ⟨"--quiet", some 'q', false⟩

/-- The options of a command, or of the program itself. -/
def switches : Option Command → List Switch
  | none | some .validate => [helpSwitch]
  | some .inspect => [prefixSwitch, helpSwitch]
  | some .generate =>
    [prefixSwitch, outSwitch, templatesSwitch, verboseSwitch, quietSwitch, helpSwitch]

def programName : String := "cli"

/-- The name under which a command, or the program itself, is invoked. -/
def invokedName : Option Command → String
  | none => programName
  | some c => programName ++ " " ++ c.name

/-- What follows the name of a command. -/
def operands : Option Command → String
  | none => "[OPTIONS] COMMAND [ARGS]..."
  | some _ => "[OPTIONS] DESCRIPTOR_PATH"

def usageLine (c : Option Command) : String :=
  "Usage: " ++ invokedName c ++ " " ++ operands c ++ "\n"

/-- What help says below the usage line. -/
def helpBody : Option Command → String
  | none =>
    "
Options:
  --help  Show this message and exit.

Commands:
  generate  Emit Objective-C models and repositories for a descriptor.
  inspect   Print the models, generated selectors and scopes of a descriptor.
  validate  Descriptor validation
"
  | some .validate =>
    "
  Descriptor validation

Options:
  --help  Show this message and exit.
"
  | some .inspect =>
    "
  Print the models, generated selectors and scopes of a descriptor.

Options:
  --prefix TEXT  Class name prefix (default: LBSDK_MODEL_PREFIX or none).
  --help         Show this message and exit.
"
  | some .generate =>
    "
  Emit Objective-C models and repositories for a descriptor.

Options:
  --prefix TEXT     Class name prefix, e.g. XX (default: LBSDK_MODEL_PREFIX or
                    none).
  --out TEXT        Output directory (default: LBSDK_OUTPUT_DIR or ./generated)
  --templates TEXT  Alternative Jinja2 templates directory.
  -v, --verbose     Log every model, property and method.
  -q, --quiet       Only log warnings and errors.
  --help            Show this message and exit.
"

def helpText (c : Option Command) : String := usageLine c ++ helpBody c

end RemoteBindings.CommandLine
