import RemoteBindings.Journal.Channel
import RemoteBindings.Proofs.Entries

/-!
# What streams receive

A configured channel writes to one stream, and what this stream receives of some records are their
lines, as far as they are shown (`received_configure`). Records below the threshold leave no line
(`kept_eq_nil`).
-/

namespace RemoteBindings.Journal

variable {d : Detail} {desk : Desk} {stream : String} {r : Record}

/-- The records that are shown. -/
def kept (d : Detail) (records : List Record) : List Record :=
  records.filter fun r => d.threshold ≤ r.level

/-- A record with its line feed. -/
def Record.line (r : Record) : String := r.text ++ "\n"

/-- All that a stream has received. -/
def Desk.received (desk : Desk) (stream : String) : String :=
  (Entries.find? stream desk.streams).getD ""

def Desk.emitAll (desk : Desk) (records : List Record) : Desk := records.foldl Desk.emit desk

theorem Record.shownTag_eq (r : Record) :
    (if r.shownTag = "" then "" else "[" ++ r.shownTag ++ "] ") =
      match r.tag with
      | some tag => if tag = "" then "" else "[" ++ tag ++ "] "
      | none => if r.level < 30 then "" else if r.level = 30 then "[WARN] " else "[ERROR] " := by
  unfold shownTag Level.warning
  cases r.tag with
  | some tag => rfl
  | none => by_cases hl : r.level < 30 <;> by_cases he : r.level = 30 <;> simp [hl, he]

theorem Record.location_eq (r : Record) :
    (if r.location = "" then "" else r.location ++ ": ") =
      match r.model.filter (· != ""), r.scope.filter (· != "") with
      | none, _ => ""
      | some model, none => model ++ ": "
      | some model, some scope => model ++ "." ++ scope ++ ": " := by
  unfold location
  cases r.model with
  | none => rfl
  | some model =>
    by_cases hm : model = ""
    · subst hm
      rfl
    · cases r.scope with
      | none => simp [Option.filter, hm]
      | some scope => by_cases hs : scope = "" <;> simp [Option.filter, hm, hs]

/-- A line begins with the tag in brackets and the place that the record concerns, as far as there
are any; an untagged record shows its level from warnings upwards. -/
theorem Record.line_eq (r : Record) :
    r.line =
      (match r.tag with
        | some tag => if tag = "" then "" else "[" ++ tag ++ "] "
        | none => if r.level < 30 then "" else if r.level = 30 then "[WARN] " else "[ERROR] ") ++
      (match r.model.filter (· != ""), r.scope.filter (· != "") with
        | none, _ => ""
        | some model, none => model ++ ": "
        | some model, some scope => model ++ "." ++ scope ++ ": ") ++
      r.message ++ "\n" := by
  rw [line, text, shownTag_eq, location_eq]

theorem Level.detail_lt_warning : Level.detail < .warning := by decide

theorem Level.progress_lt_warning : Level.progress < .warning := by decide

theorem shown_eq (d : Detail) (records : List Record) :
    shown d records = String.join ((kept d records).map Record.line) := rfl

@[simp] theorem kept_append (d : Detail) (records more : List Record) :
    kept d (records ++ more) = kept d records ++ kept d more := List.filter_append ..

theorem kept_eq_nil {records : List Record} (h : ∀ r ∈ records, r.level < d.threshold) :
    kept d records = [] :=
  List.filter_eq_nil_iff.mpr fun r hr => by simpa using h r hr

/-! ## Channels -/

theorem outlets_configure (c : Channel) (d : Detail) (stream : String) :
    (c.configure d stream).outlets = [stream] := by
  have h (l : List String) (c : Channel) (hc : c.outlets = l) :
      (l.foldl Channel.removeOutlet c).outlets = [] := by
    induction l generalizing c with
    | nil => exact hc
    | cons s l ih =>
      refine ih _ ?_
      rw [Channel.removeOutlet, hc, List.erase_cons_head]
  show (c.outlets.foldl Channel.removeOutlet c).outlets ++ [stream] = [stream]
  rw [h c.outlets c rfl, List.nil_append]

theorem received_withStream (desk : Desk) (stream out : String) :
    (desk.withStream stream).received out = desk.received out := by
  unfold Desk.withStream
  split
  · rfl
  · rename_i hk
    have hn : Entries.find? stream desk.streams = none := by
      refine Entries.find?_eq_none_iff.mpr fun hm => hk ?_
      obtain ⟨e, he, hs⟩ := List.mem_map.mp hm
      exact List.any_eq_true.mpr ⟨e, he, beq_iff_eq.mpr hs⟩
    rw [Desk.received, Entries.find?_put]
    split
    · rename_i hs
      rw [Desk.received, ← beq_iff_eq.mp hs, hn]
      rfl
    · rfl

theorem channel_emit (desk : Desk) (r : Record) : (desk.emit r).channel = desk.channel := by
  have h (l : List String) (desk : Desk) :
      (l.foldl (Desk.append (r.text ++ "\n")) desk).channel = desk.channel := by
    induction l generalizing desk with
    | nil => rfl
    | cons s l ih => exact ih _
  unfold Desk.emit
  split
  · exact h _ _
  · rfl

/-- The only outlet of a channel receives the records that its threshold lets through. -/
theorem received_emit (ho : desk.channel.outlets = [stream]) (r : Record) :
    (desk.emit r).received stream = desk.received stream ++
      if desk.channel.effective ≤ r.level then r.line else "" := by
  unfold Desk.emit
  split
  · simp [ho, Desk.append, Desk.received, Entries.find?_put, Record.line]
  · rw [String.append_empty]

theorem received_emitAll (records : List Record) (ho : desk.channel.outlets = [stream]) :
    (desk.emitAll records).received stream = desk.received stream ++
      String.join ((records.filter fun r => desk.channel.effective ≤ r.level).map Record.line) := by
  induction records generalizing desk with
  | nil => simp [Desk.emitAll]
  | cons r records ih =>
    have hc := channel_emit desk r
    rw [Desk.emitAll, List.foldl_cons, ← Desk.emitAll, ih (hc ▸ ho), hc, received_emit ho,
      List.filter_cons]
    by_cases hl : desk.channel.effective ≤ r.level <;> simp [hl, String.append_assoc]

/-- A stream for which the channel is configured receives what is shown. -/
theorem received_configure (desk : Desk) (d : Detail) (stream : String) (records : List Record) :
    ((desk.configure d stream).emitAll records).received stream =
      desk.received stream ++ shown d records := by
  have ho : (desk.configure d stream).channel.outlets = [stream] := outlets_configure _ _ _
  have hr : (desk.configure d stream).received stream = desk.received stream :=
    received_withStream desk stream stream
  rw [received_emitAll records ho, hr]
  rfl

end RemoteBindings.Journal
