/-!
# Records of a generation

A generation reports what it does as records. A record may carry a tag and the model and the scope
that it concerns, and `Record.text` writes them in front of the message: `[TAG] Model.scope: text`.
-/

namespace RemoteBindings.Journal

abbrev Level := Int

namespace Level

def detail : Level := 10
def progress : Level := 20
def warning : Level := 30

end Level

structure Record where
  level : Level
  tag : Option String
  model : Option String
  scope : Option String
  message : String
deriving Repr, DecidableEq

/-- A record under a tag. -/
def Record.event (level : Level) (tag message : String) : Record :=
  ⟨level, some tag, none, none, message⟩

/-- A detail under a tag that concerns a model. -/
def Record.ofModel (model tag message : String) : Record :=
  ⟨.detail, some tag, some model, none, message⟩

/-- The model and the scope of a record; empty without a model. -/
def Record.location (r : Record) : String :=
  match r.model with
  | none | some "" => ""
  | some model =>
    match r.scope with
    | none | some "" => model
    | some scope => model ++ "." ++ scope

/-- The tag of a record; warnings and errors have one of their own if none was given. -/
def Record.shownTag (r : Record) : String :=
  match r.tag with
  | some tag => tag
  | none =>
    if r.level < .warning then ""
    else if r.level = .warning then "WARN"
    else "ERROR"

def Record.text (r : Record) : String :=
  (if r.shownTag = "" then "" else "[" ++ r.shownTag ++ "] ") ++
    (if r.location = "" then "" else r.location ++ ": ") ++ r.message

/-- How much a generation shows. -/
inductive Detail where
  | verbose
  | standard
  | quiet
deriving Repr, DecidableEq

/-- The detail that two requests give; to show more wins. -/
def Detail.ofFlags (verbose quiet : Bool) : Detail :=
  if verbose then .verbose else if quiet then .quiet else .standard

/-- The least level that is shown. -/
def Detail.threshold : Detail → Level
  | verbose => .detail
  | standard => .progress
  | quiet => .warning

/-- The lines of the records that are shown at a level. -/
def shown (d : Detail) (records : List Record) : String :=
  String.join ((records.filter fun r => d.threshold ≤ r.level).map fun r => r.text ++ "\n")

end RemoteBindings.Journal
