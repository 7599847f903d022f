import RemoteBindings.Proofs.Overloads

/-!
# Selectors, parameter by parameter

`attempt` takes the arguments of a pass and renders each text of the selector from all of them. A
selector can be made in one walk over the parameters of its method as well: a `Draft` has what there
is so far of the name, the prototype, what is sent and the arguments, and `Draft.add` passes over a
parameter or adds to all of these at once. After any parameters a draft is what it was before them,
extended by their arguments (`foldlM_add`). So both ways come to the same, in the faults too
(`draftedAttempt_eq`).
-/

namespace RemoteBindings.ObjC

variable {r : Registry} {model : Model} {m : Method} {pass : Pass}

/-- A selector of which some parameters are seen. -/
structure Draft where
  name : String
  prototype : String
  hasArguments : Bool
  paramAssignments : List String
  bodyAssignment : Option String
  arguments : List Argument

def Draft.start (m : Method) : Draft :=
  { name := plainMethodName m.name
    prototype := ""
    hasArguments := false
    paramAssignments := []
    bodyAssignment := none
    arguments := [] }

/-- The draft with the label of a parameter: the first one belongs to the name. -/
def Draft.label (d : Draft) (arg : String) : Draft :=
  if d.hasArguments then { d with prototype := d.prototype ++ (" " ++ arg) }
  else { d with name := d.name ++ ("With" ++ Text.upperFirst arg), hasArguments := true }

/-- The draft that sends the value of an argument as the body, or none if it has a body. -/
def Draft.send? (d : Draft) (a : Argument) : Option Draft :=
  if a.isBody then
    if d.bodyAssignment.isSome then none else some { d with bodyAssignment := some a.value }
  else some { d with
    paramAssignments := d.paramAssignments ++ ["@\"" ++ a.arg ++ "\": " ++ a.value] }

/-- The draft after one more parameter of its method. -/
def Draft.add (r : Registry) (model : Model) (m : Method) (pass : Pass) (d : Draft) (p : Param) :
    Except Fault Draft :=
  if p.isServerComputed then .ok d
  else if !p.isRequired && pass == .requiredOnly then .ok d
  else
    let modelType := pointer (argumentClass r model.className p)
    match argumentType? p.type p.arg modelType with
    | none => .error (.ofType (.unsupportedArgument · p.arg m.name model.name) p.type)
    | some type =>
      let name := parameterName p.arg
      let a : Argument :=
        { arg := p.arg, name, type, value := sentValue type modelType name, isBody := p.isBody }
      match (d.label p.arg).send? a with
      | none => .error (.multipleBodies m.name model.name)
      | some d => .ok { d with
          prototype := d.prototype ++ (":(" ++ type ++ ")" ++ name)
          arguments := d.arguments ++ [a] }

/-- The draft with the blocks for success and failure. -/
def Draft.close (d : Draft) (block : String) : Draft :=
  let success := ":(" ++ block ++ ")success"
  let d :=
    if d.hasArguments then
      { d with prototype := d.prototype ++ (segmentIndent ++ "success" ++ success) }
    else { d with name := d.name ++ "WithSuccess", prototype := d.prototype ++ success }
  { d with prototype := d.prototype ++ (segmentIndent ++ "failure:(SLFailureBlock)failure") }

/-- What comes of a closed draft. -/
def Draft.finish (model : Model) (m : Method) (returnType : String) (d : Draft) : Attempt :=
  if withheldNames.contains d.name then .withheld d.name
  else
    let name := betterName d.name
    let sent := String.intercalate ", " d.paramAssignments
    .selector
      { rawName := m.name
        name
        prototype := "(void)" ++ name ++ d.prototype
        returnArg := m.result.arg
        returnType
        elementType := elementTypeOf m
        returnKind := returnKindOf returnType model.className
        paramAssignments := if sent = "" then none else some sent
        bodyAssignment := d.bodyAssignment
        arguments := d.arguments
        httpVerb := Text.upper m.http.verb
        httpPath := m.http.path }

/-- The draft with the renderings of further arguments. -/
def Draft.extend (d : Draft) (as : List Argument) : Draft :=
  { name := if d.hasArguments then d.name
      else d.name ++ String.join (as.head?.toList.map fun a => "With" ++ Text.upperFirst a.arg)
    prototype := d.prototype ++
      if d.hasArguments then String.join (as.map fun a => " " ++ a.arg ++ typedName a)
      else argumentSegments as
    hasArguments := d.hasArguments || !as.isEmpty
    paramAssignments := d.paramAssignments ++ (as.filter fun a => !a.isBody).map assignment
    bodyAssignment := d.bodyAssignment.or (bodyOf as)
    arguments := d.arguments ++ as }

end RemoteBindings.ObjC
