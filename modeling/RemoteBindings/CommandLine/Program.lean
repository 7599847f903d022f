import RemoteBindings.CommandLine.Arguments
import RemoteBindings.CommandLine.Failure
import RemoteBindings.CommandLine.Inspection
import RemoteBindings.Descriptor.File
import RemoteBindings.Settings.Basic

/-!
# The program

`run` carries out a command line in its surroundings. Errors of the descriptor and faults of the
models are printed and give the exit code 1. Other errors stop the program (`Stop`), also with the
exit code 1, and leave what was printed and written before.
-/

namespace RemoteBindings.CommandLine

open Journal (Record Detail)

structure Surroundings where
  environment : Entries String String
  directory : Path
  disk : Disk
  /-- The date that printed lines begin with. -/
  today : String
  /-- What is read for a surrogate by itself. -/
  surrogate : Text.LoneSurrogate := inferInstance
  /-- The files that the templates of a directory make of some models, if they are there. -/
  filesBy? : Path → Models → Option (Entries String String) := fun _ _ => none

/-- An error that the program does not report. -/
inductive Stop where
  | markup (f : Console.MarkupFault)
  /-- A descriptor or an environment file that is not in UTF-8. -/
  | undecodable
  | yaml (p : Yaml.Problem)
  | hugeInteger
  /-- A directory of templates that are not there. -/
  | noTemplates
  | disk (path : Path) (e : DiskError)
deriving Repr, DecidableEq

def Stop.message : Stop → String
  | markup .nothingToClose => "a closing tag has nothing to close"
  | markup .notLiteral => "the parameters of an action are no literal"
  | markup .noNumber => "a component of a color is no number"
  | undecodable => "a file is not in UTF-8"
  | yaml _ => "a scalar stands for no value of its type"
  | hugeInteger => "an integer has too many digits"
  | noTemplates => "the templates are missing"
  | disk path e => e.message path

/-- What is left of a run. -/
structure Outcome where
  exitCode : Nat := 0
  /-- What is printed, up to the message of a failure. -/
  printed : String := ""
  /-- The message of a failure, as it is laid out. -/
  failure : Option String := none
  output : String := ""
  errors : String := ""
  stop : Option Stop := none
  disk : Disk

namespace Outcome

def print (o : Outcome) (p : Console.Printed) : Outcome :=
  match o.stop with
  | some _ => o
  | none => match p with
    | .ok s => { o with printed := o.printed ++ s }
    | .error f => { o with exitCode := 1, stop := some (.markup f) }

def halt (o : Outcome) (s : Stop) : Outcome := { o with exitCode := 1, stop := some s }

/-- All that is printed. -/
def text (o : Outcome) : String := o.printed ++ o.failure.getD ""

/-- What is printed in words of the program. -/
def console (o : Outcome) : String := o.printed ++ (o.failure.map ownWords).getD ""

def log (o : Outcome) (d : Detail) (records : List Record) : Outcome :=
  { o with errors := o.errors ++ Journal.shown d records }

end Outcome

/-- Reports that a command has failed, in a heading and a message that are laid out together. -/
def reportFailure (o : Outcome) (today verb message : String) : Outcome :=
  let heading := datedLine today (verb ++ " failed with error(s): ")
  match Console.printed (heading ++ message) with
  | .ok shown => { o with
      exitCode := 1
      printed := o.printed ++ String.ofList (shown.toList.take heading.length)
      failure := some (String.ofList (shown.toList.drop heading.length)) }
  | .error f => o.halt (.markup f)

/-- How an error of a descriptor file ends a command. -/
def endWith (o : Outcome) (today verb : String) (path : Path) (e : Descriptor.LoadError) :
    Outcome :=
  if e.isReported then reportFailure o today verb (e.report path)
  else match e with
    | .undecodable => o.halt .undecodable
    | .unreadable e => o.halt (.disk path e)
    | .json _ _ => o.halt .hugeInteger
    | .yaml p _ => o.halt (.yaml p)
    | _ => o

def loadFrom (s : Surroundings) (path : Path) : Except Descriptor.LoadError Descriptor.Service :=
  @Descriptor.load s.surrogate path (s.disk.read (s.directory.within path))

/-- How a fault of the models ends a command. -/
def endWithFault (o : Outcome) (today verb : String) (f : Fault) : Outcome :=
  if f.isReported then reportFailure o today verb f.message else o.halt .hugeInteger

def runValidate (s : Surroundings) (path : Path) : Outcome :=
  let start : Outcome := { disk := s.disk }
  match loadFrom s path with
  | .error e => endWith start s.today "Validation" path e
  | .ok service =>
    start.print (Console.printed (datedLine s.today
      ("Descriptor validation success! (" ++ toString service.models.length ++ " classes)")))

def runInspect (s : Surroundings) (path : Path) (classPrefix : String) : Outcome :=
  let start : Outcome := { disk := s.disk }
  match loadFrom s path with
  | .error e => endWith start s.today "Inspect" path e
  | .ok service => match (bindService service classPrefix).toExcept with
    | .error f => endWithFault start s.today "Inspect" f
    | .ok b => (inspection b).foldl (fun o piece => o.print piece.printed) start

/-! ## Generation -/

/-- Where and how files are generated. -/
structure Target where
  classPrefix : String
  directory : Path
  /-- Where the templates are, if not in the program. -/
  templates : Option Path
  detail : Detail

/-- Where a file of the generated map goes. -/
def Target.pathOf (t : Target) (name : String) : Path := t.directory.within (Path.ofText name)

def bytesOf (s : String) : List UInt8 := s.toUTF8.data.toList

/-- What is printed of files that have been written. -/
def emittedLine (t : Target) (today : String) (files : Entries String String) : String :=
  datedLine today (toString files.length ++ " files emitted to: " ++ t.directory.text)

/-- Writes the files one after the other, and reports each. -/
def writeFiles (t : Target) (o : Outcome) : List (String × String) → Outcome
  | [] => o
  | (name, content) :: files =>
    let path := t.pathOf name
    match o.disk.write path (bytesOf content) with
    | .error e => o.halt (.disk path e)
    | .ok disk =>
      let reported := { o with disk }.log t.detail [.event .detail "GENERATED" path.text]
      writeFiles t reported files

/-- Makes the output directory and writes all files. -/
def writeAll (t : Target) (today : String) (o : Outcome) (files : Entries String String) :
    Outcome :=
  match o.disk.makeDirectories t.directory with
  | .error e => o.halt (.disk t.directory e)
  | .ok disk =>
    let written := writeFiles t { o with disk } files
    if written.stop.isSome then written
    else
      let reported := written.log t.detail [.event .progress "GENERATED"
        (toString files.length ++ " files in " ++ t.directory.text)]
      reported.print (Console.printed (emittedLine t today files))

/-- The records up to the point where templates are needed. -/
def beforeTemplates (service : Descriptor.Service) (classPrefix : String) : List Record :=
  (bindService service classPrefix).records ++ [phaseRecord 4 "Rendering Objective-C sources..."]

/-- The files for a target, if its templates are there. -/
def filesFor? (s : Surroundings) (t : Target) (models : Models) :
    Option (Entries String String) :=
  match t.templates with
  | none => some (ObjC.renderFiles models)
  | some directory => s.filesBy? directory models

def runGenerate (s : Surroundings) (path : Path) (t : Target) : Outcome :=
  let start : Outcome := { disk := s.disk }
  if !t.directory.isPossible then start.halt (.disk t.directory .impossiblePath)
  else match loadFrom s path with
  | .error e => endWith start s.today "Generate" path e
  | .ok service =>
    let reported := start.log t.detail (generate service t.classPrefix).records
    match (bindService service t.classPrefix).toExcept with
    | .error f => endWithFault reported s.today "Generate" f
    | .ok b => match filesFor? s t b.models with
      | none => (start.log t.detail (beforeTemplates service t.classPrefix)).halt .noTemplates
      | some files => writeAll t s.today reported files

/-! ## Commands -/

/-- The value of an option, unless it is empty. -/
def filled (value : Option String) : Option String :=
  match value with
  | none | some "" => none
  | some s => some s

def targetOf (s : Surroundings) (settings : Settings) (g : Given) : Target :=
  { classPrefix := (g.value? prefixSwitch).getD settings.classPrefix
    directory := s.directory.resolve
      (((filled (g.value? outSwitch)).map Path.ofText).getD settings.outputDirectory)
    templates := ((filled (g.value? templatesSwitch)).map Path.ofText).or settings.templates
    detail := Detail.ofFlags (g.has verboseSwitch) (g.has quietSwitch) }

def runCommand (s : Surroundings) (settings : Settings) (path : Path) (g : Given) :
    Command → Outcome
  | .validate => runValidate s path
  | .inspect => runInspect s path ((g.value? prefixSwitch).getD settings.classPrefix)
  | .generate => runGenerate s path (targetOf s settings g)

/-- The text of the environment file, if there is one; no value if it is not in UTF-8. -/
def environmentText (s : Surroundings) : Option (Option String) :=
  match s.disk.read (s.directory.within (Path.ofText ".env")) with
  | .error _ => some none
  | .ok bytes => (String.fromUTF8? ⟨bytes.toArray⟩).map fun text => some (Text.unifyLineEnds text)

/-- What is said about the lines of an environment file that are passed over. -/
def warnings (text : Option String) : String :=
  String.join (((text.map EnvironmentFile.unreadableLines).getD []).map fun line =>
    "python-dotenv could not parse statement starting at line " ++ toString line ++ "\n")

/-- Whether settings are read before the request is met: not if the program itself is at fault or
asked for help. -/
def readsSettings : Request → Bool
  | .help none | .nothing => false
  | .help (some _) | .run .. => true
  | .wrong e => match e.place? with
    | some none => false
    | _ => true

def answer (s : Surroundings) (settings : Settings) : Request → Outcome
  | .help c => { output := helpText c, disk := s.disk }
  | .nothing => { exitCode := 2, errors := helpText none, disk := s.disk }
  | .wrong e => { exitCode := 2, errors := e.message, disk := s.disk }
  | .run c path g => runCommand s settings (Path.ofText path) g c

/-- Carries out a command line. -/
def run (s : Surroundings) (args : List String) : Outcome :=
  let request := Request.ofArguments args
  if !readsSettings request then answer s (Settings.read s.environment none) request
  else match environmentText s with
    | none => { exitCode := 1, stop := some .undecodable, disk := s.disk }
    | some text =>
      let o := answer s (Settings.read s.environment text) request
      { o with errors := warnings text ++ o.errors }

end RemoteBindings.CommandLine
