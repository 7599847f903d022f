import RemoteBindings.Journal.Channel

/-!
# The way of a record

Channels have dotted names, and a channel lies in the one whose name ends at its last dot; the
outermost has the empty name. A record goes from the channel of its source outwards up to the first
channel that does not forward it (`passed`), and the first threshold on the whole way outwards
decides whether it goes at all (`levelOf`). `Desk.emitFrom` writes a record to every outlet that it
passes.
-/

namespace RemoteBindings.Journal

/-- What stands before the last dot. -/
def beforeLastDot (cs : List Char) : List Char :=
  ((cs.reverse.dropWhile (· != '.')).drop 1).reverse

theorem length_beforeLastDot_le (cs : List Char) : (beforeLastDot cs).length ≤ cs.length - 1 := by
  rw [beforeLastDot, List.length_reverse, List.length_drop]
  have := (List.dropWhile_sublist (· != '.') (l := cs.reverse)).length_le
  rw [List.length_reverse] at this
  omega

/-- The names of the channels around one, from the inside out. A dot in front of another one, or at
the start, ends no name. -/
def namesAround (cs : List Char) : List String :=
  match _h : beforeLastDot cs with
  | [] => [""]
  | c :: outer => String.ofList (c :: outer) :: namesAround (c :: outer).dropLast
termination_by cs.length
decreasing_by
  have := length_beforeLastDot_le cs
  simp_all
  omega

/-- A name and those around it. -/
def ancestry (name : String) : List String := name :: namesAround name.toList

/-- Whether a name is that of the channel of the records, or of one inside it. -/
def isInside (name : String) : Bool :=
  name == channelName || (channelName ++ ".").toList.isPrefixOf name.toList

/-- Channels that have been set up outside of the channel of the records. -/
structure Outside where
  channels : Entries String Channel
  apart : ∀ e ∈ channels, isInside e.1 = false

def Outside.none : Outside := ⟨[], fun _ h => nomatch h⟩

/-- The channel of a name. One that has not been set up shows nothing and forwards everything. -/
def Outside.channel (o : Outside) (own : Channel) (name : String) : Channel :=
  if name = channelName then own else (Entries.find? name o.channels).getD .initial

/-- The channels that a record reaches. -/
def passed : List Channel → List Channel
  | [] => []
  | c :: cs => c :: if c.forwards then passed cs else []

/-- The least level that channels let through: the first threshold, and warnings without one. -/
def levelOf (cs : List Channel) : Level := (cs.findSome? Channel.threshold).getD .warning

/-- Emits a record from a source. -/
def Desk.emitFrom (o : Outside) (d : Desk) (source : Option String) (r : Record) : Desk :=
  let around := (ancestry (sourceName source)).map (o.channel d.channel)
  if levelOf around ≤ r.level then
    ((passed around).flatMap Channel.outlets).foldl (Desk.append (r.text ++ "\n")) d
  else d

/-- The name of the stream for errors, to which records go unless another one is given. -/
def errorStream : String := "stderr"

/-- A use of the channel: it is configured, or a source emits a record. -/
inductive Step where
  | configure (verbose quiet : Bool) (stream : Option String)
  | emit (source : Option String) (record : Record)

def Desk.step (o : Outside) (d : Desk) : Step → Desk
  | .configure verbose quiet stream =>
    d.configure (Detail.ofFlags verbose quiet) (stream.getD errorStream)
  | .emit source record => d.emitFrom o source record

def Desk.run (o : Outside) (d : Desk) (steps : List Step) : Desk := steps.foldl (Desk.step o) d

end RemoteBindings.Journal
