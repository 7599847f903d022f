import RemoteBindings.Path
import RemoteBindings.Settings.EnvironmentFile
import RemoteBindings.Text.Case

/-!
# Settings

Defaults of the command line come from the environment, then from an environment file. Their names
are read without regard to case.
-/

namespace RemoteBindings

structure Settings where
  classPrefix : String
  outputDirectory : Path
  /-- Where the templates are, if not in the program. -/
  templates : Option Path
deriving Repr, DecidableEq

namespace Settings

/-- The variable of a name in any case; of several the last counts. -/
def lastValue? (name : String) (known : EnvironmentFile.Variables) : Option String :=
  ((known.filter fun e => Text.lower e.1 == name).getLast?.map Prod.snd).join

/-- The value of a setting, from the environment or else from the file. -/
def lookup (environment : Entries String String) (file : EnvironmentFile.Variables)
    (name : String) : Option String :=
  (lastValue? name (Entries.mapValues some environment)).or (lastValue? name file)

/-- The settings that an environment and the text of an environment file give. -/
def read (environment : Entries String String) (file : Option String) : Settings :=
  let known := match file with
    | none => []
    | some text => EnvironmentFile.read environment text
  { classPrefix := (lookup environment known "lbsdk_model_prefix").getD ""
    outputDirectory := Path.ofText ((lookup environment known "lbsdk_output_dir").getD "generated")
    templates := (lookup environment known "lbsdk_templates_dir").map Path.ofText }

end Settings

end RemoteBindings
