import RemoteBindings.Entries
import RemoteBindings.Journal.Record
import RemoteBindings.Text.Blank

/-!
# The channel of generation records

All records go through one channel, whatever the name of the source that emits them
(`sourceName`). `Channel.configure` gives it a single outlet, in place of those it had, and a
threshold; `Desk.emit` writes a record to every outlet of the channel if its level is high enough.
-/

namespace RemoteBindings.Journal

def channelName : String := "lbsdk.gen"

/-- The full name of a source: the channel itself, or the last part of a dotted name under it. -/
def sourceName (name : Option String) : String :=
  match name with
  | none | some "" => channelName
  | some s =>
    if s = channelName then channelName
    else
      let part := ((Text.splitAtChars (· == '.') s.toList).getLast?.getD [])
      channelName ++ "." ++ String.ofList part

/-- Where records go: the outlets are names of streams, and `forwards` says whether records also go
on to whatever surrounds the channel, where none are shown. -/
structure Channel where
  threshold : Option Level
  outlets : List String
  forwards : Bool
deriving Repr, DecidableEq

/-- The channel before it is configured shows nothing. -/
def Channel.initial : Channel := ⟨none, [], true⟩

def Channel.removeOutlet (c : Channel) (stream : String) : Channel :=
  { c with outlets := c.outlets.erase stream }

def Channel.addOutlet (c : Channel) (stream : String) : Channel :=
  { c with outlets := c.outlets ++ [stream] }

def Channel.configure (c : Channel) (detail : Detail) (stream : String) : Channel :=
  { (c.outlets.foldl Channel.removeOutlet c).addOutlet stream with
    threshold := some detail.threshold, forwards := false }

/-- The least level that the channel lets through: warnings, unless it is configured. -/
def Channel.effective (c : Channel) : Level := c.threshold.getD .warning

/-- A channel together with what its streams have received. -/
structure Desk where
  channel : Channel
  streams : Entries String String
deriving Repr, DecidableEq

def Desk.initial : Desk := ⟨.initial, []⟩

/-- A stream that receives nothing is still there. -/
def Desk.withStream (d : Desk) (stream : String) : Desk :=
  if Entries.hasKey stream d.streams then d
  else { d with streams := Entries.put stream "" d.streams }

def Desk.append (text : String) (d : Desk) (stream : String) : Desk :=
  { d with
    streams := Entries.put stream ((Entries.find? stream d.streams).getD "" ++ text) d.streams }

def Desk.configure (d : Desk) (detail : Detail) (stream : String) : Desk :=
  { d.withStream stream with channel := d.channel.configure detail stream }

def Desk.emit (d : Desk) (r : Record) : Desk :=
  if d.channel.effective ≤ r.level then d.channel.outlets.foldl (Desk.append (r.text ++ "\n")) d
  else d

/-- The same desk with everything received taken away. -/
def Desk.cleared (d : Desk) : Desk :=
  { d with streams := Entries.mapValues (fun _ => "") d.streams }

end RemoteBindings.Journal
