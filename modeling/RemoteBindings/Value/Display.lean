import RemoteBindings.Decimal.Notation
import RemoteBindings.Entries
import RemoteBindings.Text.Quoted
import RemoteBindings.Value.Basic

/-!
# Values as text

`Value.display` is how a value stands in a message; `Value.literal` is how it stands inside another
value, where texts are quoted. The two differ for texts, moments and validated parts only. A
collection inside itself shows as its brackets with an ellipsis.
-/

namespace RemoteBindings

def padZero (width n : Nat) : String :=
  let ds := toString n
  String.ofList (List.replicate (width - ds.length) '0') ++ ds

def Date.display (d : Date) : String :=
  padZero 4 d.year ++ "-" ++ padZero 2 d.month ++ "-" ++ padZero 2 d.day

/-- An offset from universal time as `+HH:MM`. -/
def offsetText (minutes : Int) : String :=
  (if minutes < 0 then "-" else "+") ++ padZero 2 (minutes.natAbs / 60) ++ ":" ++
    padZero 2 (minutes.natAbs % 60)

/-- Date and time of day, joined by `mark`; microseconds only if there are some. -/
def Timestamp.write (mark : String) (t : Timestamp) : String :=
  t.date.display ++ mark ++ padZero 2 t.hour ++ ":" ++ padZero 2 t.minute ++ ":" ++
    padZero 2 t.second ++ (if t.microsecond = 0 then "" else "." ++ padZero 6 t.microsecond) ++
    (t.offset.map offsetText).getD ""

/-- Items in brackets, parted by commas. -/
def bracketed (opening closing : String) (items : List String) : String :=
  opening ++ String.intercalate ", " items ++ closing

def truthText (b : Bool) : String := if b then "True" else "False"

def Date.literal (d : Date) : String := s!"datetime.date({d.year}, {d.month}, {d.day})"

/-- The offset of a literal moment, as a number of days and a number of seconds below a day. -/
def zoneLiteral (minutes : Int) : String :=
  if minutes = 0 then "datetime.timezone.utc"
  else
    let days := Int.fdiv minutes 1440
    let seconds := Int.fmod minutes 1440 * 60
    let parts := (if days = 0 then [] else ["days=" ++ toString days]) ++
      (if seconds = 0 then [] else ["seconds=" ++ toString seconds])
    "datetime.timezone(datetime.timedelta(" ++ String.intercalate ", " parts ++ "))"

/-- A moment with its seconds and microseconds left out where nothing but zeros would follow. -/
def Timestamp.literal (t : Timestamp) : String :=
  let clock := [t.date.year, t.date.month, t.date.day, t.hour, t.minute] ++
    (if t.microsecond = 0 then (if t.second = 0 then [] else [t.second])
      else [t.second, t.microsecond])
  bracketed "datetime.datetime(" ")"
    (clock.map toString ++ (t.offset.map fun o => "tzinfo=" ++ zoneLiteral o).toList)

namespace Value

mutual

def literal : Value → String
  | null => "None"
  | bool b => truthText b
  | int n => toString n
  | float x => Decimal.floatText x
  | nan _ => "nan"
  | text s => Text.quoted s
  | bytes bs => Text.quotedBytes bs
  | date d => d.literal
  | timestamp t => t.literal
  | list items => bracketed "[" "]" (literals items)
  | tuple [item] => "(" ++ literal item ++ ",)"
  | tuple items => bracketed "(" ")" (literals items)
  | set [] => "set()"
  | set items => bracketed "\x7b" "\x7d" (literals items)
  | map entries => bracketed "\x7b" "\x7d" (entryLiterals entries)
  | function name => "<function " ++ name ++ ">"
  | knot _ content => literal content
  | again _ isMapping => if isMapping then "\x7b...\x7d" else "[...]"
  | endpoint verb path extra =>
    bracketed "EndpointDescriptor(" ")"
      (("verb=" ++ Text.quoted verb) :: ("path=" ++ (path.map Text.quoted).getD "None") ::
        fieldLiterals extra)
  | property type id generated required extra =>
    bracketed "PropertyDescriptor(" ")"
      (("type=" ++ literal type) :: ("id=" ++ literal id) ::
        ("generated=" ++ truthText generated) :: ("required=" ++ truthText required) ::
        fieldLiterals extra)

def literals : List Value → List String
  | [] => []
  | v :: vs => literal v :: literals vs

def entryLiterals : List (Value × Value) → List String
  | [] => []
  | (k, v) :: es => (literal k ++ ": " ++ literal v) :: entryLiterals es

def fieldLiterals : List (String × Value) → List String
  | [] => []
  | (k, v) :: es => (k ++ "=" ++ literal v) :: fieldLiterals es

end

def display : Value → String
  | text s => s
  | date d => d.display
  | timestamp t => t.write " "
  | endpoint verb path extra =>
    String.intercalate " " (("verb=" ++ Text.quoted verb) ::
      ("path=" ++ (path.map Text.quoted).getD "None") :: fieldLiterals extra)
  | property type id generated required extra =>
    String.intercalate " " (("type=" ++ literal type) :: ("id=" ++ literal id) ::
      ("generated=" ++ truthText generated) :: ("required=" ++ truthText required) ::
      fieldLiterals extra)
  | v => literal v

/-- The extra field of a validated part that holds its name. -/
def nameKey : String := "__name__"

/-- The name that a value carries itself: that of a function, or of a validated part. -/
def ownName? : Value → Option Value
  | function name => some (text name)
  | endpoint _ _ extra => Entries.find? nameKey extra
  | property _ _ _ _ extra => Entries.find? nameKey extra
  | _ => none

mutual

/-- The name of a value in the place of a type: its own if it has one, for an anonymous object type
`object`, and for nothing `undefined`. -/
def typeName : Value → String
  | null => "undefined"
  | list items => bracketed "[" "]" (typeNames items)
  | tuple items => bracketed "[" "]" (typeNames items)
  | map _ | again _ true => "object"
  | knot _ content => typeName content
  | v => (v.ownName?.getD v).display

def typeNames : List Value → List String
  | [] => []
  | v :: vs => typeName v :: typeNames vs

end

/-- The name of the kind of a value. -/
def kindName : Value → String
  | null => "NoneType"
  | bool _ => "bool"
  | int _ => "int"
  | float _ | nan _ => "float"
  | text _ => "str"
  | bytes _ => "bytes"
  | date _ => "date"
  | timestamp _ => "datetime"
  | list _ => "list"
  | tuple _ => "tuple"
  | set _ => "set"
  | map _ => "dict"
  | function _ => "function"
  | knot _ content => content.kindName
  | again _ isMapping => if isMapping then "dict" else "list"
  | endpoint .. => "EndpointDescriptor"
  | property .. => "PropertyDescriptor"

/-- Whether an integer has no more digits than one may have. -/
def isShort (n : Int) : Bool := n.natAbs < Nat.pow 10 Decimal.maxDigits

mutual

/-- Whether a value can be written: integers in it must not be too long. -/
def isWritable : Value → Bool
  | int n => isShort n
  | list items => areWritable items
  | tuple items => areWritable items
  | set items => areWritable items
  | map entries => areEntriesWritable entries
  | knot _ content => isWritable content
  | endpoint _ _ extra => areFieldsWritable extra
  | property type id _ _ extra => isWritable type && isWritable id && areFieldsWritable extra
  | _ => true

def areWritable : List Value → Bool
  | [] => true
  | v :: vs => isWritable v && areWritable vs

def areEntriesWritable : List (Value × Value) → Bool
  | [] => true
  | (k, v) :: es => isWritable k && isWritable v && areEntriesWritable es

def areFieldsWritable : List (String × Value) → Bool
  | [] => true
  | (_, v) :: es => isWritable v && areFieldsWritable es

end

/-- Whether a value in the place of a type has a name: an object type has one whatever is in it. -/
def hasTypeName : Value → Bool
  | map _ => true
  | v => v.isWritable

end Value

end RemoteBindings
