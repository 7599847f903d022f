import RemoteBindings.Value.Display

/-!
# Faults

A generation stops at the first `Fault`: a base model or a type for which there is no binding, or a
method with two bodies. `Fault.message` words it. That a value is too long to be reported is a fault
as well, but not one of the description (`Fault.isReported`).
-/

namespace RemoteBindings

inductive Fault where
  | unknownBase (base : Value) (model : String)
  | unsupportedProperty (type property model : String)
  | unsupportedArgument (type arg method model : String)
  | unsupportedReturn (type method model : String)
  | multipleBodies (method model : String)
  /-- A report would hold an integer that is too long to be written. -/
  | unwritable

/-- The fault that names a type. -/
def Fault.ofType (fault : String → Fault) (type : Value) : Fault :=
  if type.hasTypeName then fault type.typeName else unwritable

def Fault.ofBase (base : Value) (model : String) : Fault :=
  if base.isWritable then unknownBase base model else unwritable

def Fault.message : Fault → String
  | unknownBase base model =>
    "Unknown base model: \"" ++ base.display ++ "\" for model: \"" ++ model ++ "\""
  | unsupportedProperty type property model =>
    "Unsupported property type: \"" ++ type ++ "\" of property: \"" ++ property ++
      "\" in model: \"" ++ model ++ "\""
  | unsupportedArgument type arg method model =>
    "Unsupported argument type: \"" ++ type ++ "\" of argument: \"" ++ arg ++ "\" in method: \"" ++
      method ++ "\" of model: \"" ++ model ++ "\""
  | unsupportedReturn type method model =>
    "Unsupported return type: \"" ++ type ++ "\" in method: \"" ++ method ++ "\" of model: \"" ++
      model ++ "\""
  | multipleBodies method model =>
    "Multiple body arguments specified in method: \"" ++ method ++ "\" of model: \"" ++ model ++
      "\""

  | unwritable => "Exceeds the limit for integer string conversion"

/-- Whether a fault is one of the description; the others stop the program. -/
def Fault.isReported : Fault → Bool
  | unwritable => false
  | _ => true

end RemoteBindings
