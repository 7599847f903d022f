import RemoteBindings.Journal.Routing
import RemoteBindings.Proofs.Journal
import RemoteBindings.Proofs.Words

/-!
# Records of all sources

Every source lies in the channel of the records or is it (`ancestry_sourceName`), and no channel
inside it is ever set up. So once the channel is configured, a record of any source goes to its only
outlet and no further (`emitFrom_of_isConfigured`). Over a run of configurations and records, every
stream receives the records that were emitted while it was the last one configured, as far as its
level let them through (`received_run`). What a run writes is put behind what the streams have
received before, and does not depend on that (`received_run_eq_cleared`).
-/

namespace RemoteBindings.Journal

variable {o : Outside} {d : Desk} {stream out name : String} {source : Option String} {r : Record}
  {least : Level}

/-! ## Names -/

theorem beforeLastDot_append {cs part : List Char} (h : '.' ∉ part) :
    beforeLastDot (cs ++ '.' :: part) = cs := by
  have hpart : ∀ c ∈ part.reverse, (c != '.') = true := fun c hc =>
    bne_iff_ne.mpr fun he => h (he ▸ List.mem_reverse.mp hc)
  rw [beforeLastDot, List.reverse_append, List.reverse_cons, List.append_assoc,
    List.dropWhile_append_of_pos hpart]
  simp

theorem sourceName_eq (source : Option String) : sourceName source = channelName ∨
    ∃ part, '.' ∉ part ∧ sourceName source = channelName ++ "." ++ String.ofList part := by
  unfold sourceName
  split
  · exact .inl rfl
  · exact .inl rfl
  · rename_i s _
    split
    · exact .inl rfl
    · refine .inr ⟨_, fun hm => ?_, rfl⟩
      obtain ⟨piece, hp⟩ := Option.ne_none_iff_exists'.mp
        (mt List.getLast?_eq_none_iff.mp (Text.splitAtChars_ne_nil (· == '.') s.toList))
      rw [hp, Option.getD_some] at hm
      exact absurd (Text.not_cut_of_getLast? hp _ hm) (by decide)

theorem ancestry_channelName : ancestry channelName = ["lbsdk.gen", "lbsdk", ""] := by
  decide +kernel

theorem toList_inside (part : List Char) :
    (channelName ++ "." ++ String.ofList part).toList = channelName.toList ++ '.' :: part := by
  simp [String.toList_append]

theorem isInside_append (part : List Char) :
    isInside (channelName ++ "." ++ String.ofList part) = true := by
  rw [isInside, Bool.or_eq_true, List.isPrefixOf_iff_prefix, toList_inside, String.toList_append]
  exact .inr ⟨part, by simp⟩

theorem ancestry_append {part : List Char} (h : '.' ∉ part) :
    ancestry (channelName ++ "." ++ String.ofList part) =
      (channelName ++ "." ++ String.ofList part) :: ancestry channelName := by
  have hcut : beforeLastDot (channelName ++ "." ++ String.ofList part).toList =
      channelName.toList := by rw [toList_inside, beforeLastDot_append h]
  have hname : channelName.toList = 'l' :: "bsdk.gen".toList := by decide +kernel
  have hrest : namesAround ('l' :: "bsdk.gen".toList).dropLast = ["lbsdk", ""] := by
    decide +kernel
  rw [ancestry_channelName, ancestry, namesAround]
  split
  · rename_i hn
    rw [hcut, hname] at hn
    cases hn
  · rename_i c outer hc
    rw [hcut, hname] at hc
    rw [← hc, hrest]
    rfl

/-- A source is the channel, or lies in it. -/
theorem ancestry_sourceName (source : Option String) :
    ancestry (sourceName source) = ancestry channelName ∨
      ∃ name, isInside name = true ∧ name ≠ channelName ∧
        ancestry (sourceName source) = name :: ancestry channelName := by
  rcases sourceName_eq source with h | ⟨part, hp, h⟩
  · exact .inl (by rw [h])
  · refine .inr ⟨_, isInside_append part, fun he => ?_, h ▸ ancestry_append hp⟩
    have hl := congrArg (fun s => s.toList.length) he
    simp [String.toList_append] at hl

/-! ## One record -/

/-- The channel has been configured for a stream and a level. -/
structure IsConfigured (c : Channel) (stream : String) (least : Level) : Prop where
  outlets : c.outlets = [stream]
  threshold : c.threshold = some least
  forwards : c.forwards = false

theorem isConfigured_configure (c : Channel) (detail : Detail) (stream : String) :
    IsConfigured (c.configure detail stream) stream detail.threshold :=
  ⟨outlets_configure c detail stream, rfl, rfl⟩

/-- No channel inside that of the records has been set up. -/
theorem channel_of_isInside {own : Channel} (h : isInside name = true) (hn : name ≠ channelName) :
    o.channel own name = .initial := by
  have hf : Entries.find? name o.channels = none := by
    refine Entries.find?_eq_none_iff.mpr fun hm => ?_
    obtain ⟨e, he, rfl⟩ := List.mem_map.mp hm
    rw [o.apart e he] at h
    cases h
  rw [Outside.channel, if_neg hn, hf, Option.getD_none]

theorem channel_channelName {own : Channel} : o.channel own channelName = own := if_pos rfl

/-- The channels from that of the records outwards. -/
def Outside.fromOwn (o : Outside) (own : Channel) : List Channel :=
  own :: ["lbsdk", ""].map (o.channel own)

/-- Of the channels around a source only that of the records and those outside of it matter. -/
theorem channels_around (o : Outside) (own : Channel) (source : Option String) :
    (ancestry (sourceName source)).map (o.channel own) = o.fromOwn own ∨
      (ancestry (sourceName source)).map (o.channel own) = .initial :: o.fromOwn own := by
  have hown : (ancestry channelName).map (o.channel own) = o.fromOwn own := by
    rw [ancestry_channelName, List.map_cons, Outside.fromOwn]
    exact congrArg (· :: _) channel_channelName
  rcases ancestry_sourceName source with h | ⟨name, hi, hn, h⟩
  · exact .inl (h ▸ hown)
  · exact .inr (by rw [h, List.map_cons, hown, channel_of_isInside hi hn])

/-- Where a record goes depends on the channel of the records and those outside of it. -/
theorem emitFrom_eq (o : Outside) (d : Desk) (source : Option String) (r : Record) :
    d.emitFrom o source r =
      if levelOf (o.fromOwn d.channel) ≤ r.level then
        ((passed (o.fromOwn d.channel)).flatMap Channel.outlets).foldl
          (Desk.append (r.text ++ "\n")) d
      else d := by
  unfold Desk.emitFrom
  rcases channels_around o d.channel source with h | h
  · simp only [h]
  · simp only [h]
    rfl

/-- Where nothing is set up outside, the channel of the records alone writes them. -/
theorem emitFrom_none (d : Desk) (source : Option String) (r : Record) :
    d.emitFrom .none source r = d.emit r := by
  have hall : Outside.none.fromOwn d.channel = [d.channel, .initial, .initial] := rfl
  have hlevel : levelOf (Outside.none.fromOwn d.channel) = d.channel.effective := by
    cases ht : d.channel.threshold <;> simp [hall, levelOf, Channel.effective, ht, Channel.initial]
  have hpassed : (passed (Outside.none.fromOwn d.channel)).flatMap Channel.outlets =
      d.channel.outlets := by
    cases hf : d.channel.forwards <;> simp [hall, passed, hf, Channel.initial]
  rw [emitFrom_eq, hlevel, hpassed, Desk.emit]

/-- A record of any source goes to the only outlet of a configured channel, and no further. -/
theorem emitFrom_of_isConfigured (h : IsConfigured d.channel stream least)
    (source : Option String) (r : Record) :
    d.emitFrom o source r = if least ≤ r.level then d.append r.line stream else d := by
  have hlevel : levelOf (o.fromOwn d.channel) = least := by
    simp [levelOf, Outside.fromOwn, h.threshold]
  have hpassed : (passed (o.fromOwn d.channel)).flatMap Channel.outlets = [stream] := by
    simp [passed, Outside.fromOwn, h.forwards, h.outlets]
  rw [emitFrom_eq, hlevel, hpassed]
  rfl

/-! ## Runs -/

/-- The least level that shows. -/
def leastLevel (verbose quiet : Bool) : Level :=
  if verbose then .detail else if quiet then .warning else .progress

/-- The records that show on the stream `out`. Before the steps the last configuration was that for
a stream and a least level. -/
def shownOn (out stream : String) (least : Level) : List Step → List Record
  | [] => []
  | .configure verbose quiet next :: steps =>
    shownOn out (next.getD errorStream) (leastLevel verbose quiet) steps
  | .emit _ r :: steps =>
    (if out = stream ∧ least ≤ r.level then [r] else []) ++ shownOn out stream least steps

theorem threshold_ofFlags (verbose quiet : Bool) :
    (Detail.ofFlags verbose quiet).threshold = leastLevel verbose quiet := by
  cases verbose <;> cases quiet <;> rfl

theorem received_append (d : Desk) (text stream out : String) :
    (d.append text stream).received out =
      d.received out ++ if out = stream then text else "" := by
  rw [Desk.received, Desk.append, Entries.find?_put]
  by_cases hs : stream = out
  · simp [hs, Desk.received]
  · simp [hs, Ne.symm hs, Desk.received]

/-- Configuring the channel writes nothing. -/
theorem received_configured (d : Desk) (detail : Detail) (stream out : String) :
    (d.configure detail stream).received out = d.received out :=
  received_withStream d stream out

theorem step_configure (o : Outside) (d : Desk) (verbose quiet : Bool) (next : Option String) :
    IsConfigured (d.step o (.configure verbose quiet next)).channel (next.getD errorStream)
      (leastLevel verbose quiet) :=
  threshold_ofFlags verbose quiet ▸ isConfigured_configure d.channel _ _

/-- Two desks with the same channel, of which one has received some texts more, and before the others.
-/
structure Behind (before : String → String) (d more : Desk) : Prop where
  channel : more.channel = d.channel
  received : ∀ out, more.received out = before out ++ d.received out

theorem behind_cleared (d : Desk) : Behind d.received d.cleared d := by
  refine ⟨rfl, fun out => ?_⟩
  have hnone : d.cleared.received out = "" := by
    rw [Desk.received, Desk.cleared, Entries.find?_mapValues]
    cases Entries.find? out d.streams <;> rfl
  rw [hnone, String.append_empty]

theorem Behind.append {before : String → String} {more : Desk} (h : Behind before d more)
    (text stream : String) : Behind before (d.append text stream) (more.append text stream) := by
  refine ⟨h.channel, fun out => ?_⟩
  rw [received_append, received_append, h.received, String.append_assoc]

/-- Whatever the channels, a step adds the same to both desks. -/
theorem Behind.step {before : String → String} {more : Desk} (h : Behind before d more)
    (step : Step) : Behind before (d.step o step) (more.step o step) := by
  cases step with
  | configure verbose quiet stream =>
    refine ⟨congrArg (Channel.configure · _ _) h.channel, fun out => ?_⟩
    have hout (d : Desk) :
        (d.step o (.configure verbose quiet stream)).received out = d.received out :=
      received_configured ..
    rw [hout, hout, h.received]
  | emit source r =>
    have hall (outlets : List String) : Behind before
        (outlets.foldl (Desk.append (r.text ++ "\n")) d)
        (outlets.foldl (Desk.append (r.text ++ "\n")) more) := by
      induction outlets generalizing d more with
      | nil => exact h
      | cons stream outlets ih => exact ih (h.append _ stream)
    rw [Desk.step, Desk.step, emitFrom_eq, emitFrom_eq, h.channel]
    split
    · exact hall _
    · exact h

/-- A run puts what it writes behind what the streams have received, and writes the same if they have
received nothing. -/
theorem received_run_eq_cleared (o : Outside) (d : Desk) (steps : List Step) (out : String) :
    (d.run o steps).received out = d.received out ++ (d.cleared.run o steps).received out := by
  have h {d more : Desk} {before : String → String} (h : Behind before d more) :
      Behind before (d.run o steps) (more.run o steps) := by
    induction steps generalizing d more with
    | nil => exact h
    | cons step steps ih => exact ih (h.step step)
  exact (h (behind_cleared d)).received out

/-- A record is written once, to the stream for which the channel is configured, if its level is
high enough; and the channel stays as it is. -/
theorem step_emit (h : IsConfigured d.channel stream least) (out : String)
    (source : Option String) (r : Record) :
    (d.step o (.emit source r)).channel = d.channel ∧
      (d.step o (.emit source r)).received out = d.received out ++
        if out = stream ∧ least ≤ r.level then r.line else "" := by
  rw [Desk.step, emitFrom_of_isConfigured h]
  by_cases hl : least ≤ r.level
  · rw [if_pos hl, received_append]
    simp [hl, Desk.append]
  · simp [hl]

/-- Since its first configuration the channel has one outlet, and a stream has received the records
that show on it. -/
theorem received_run_of_isConfigured (steps : List Step)
    (h : IsConfigured d.channel stream least) :
    (d.run o steps).channel.outlets.length = 1 ∧
      (d.run o steps).received out = d.received out ++
        String.join ((shownOn out stream least steps).map Record.line) := by
  induction steps generalizing d stream least with
  | nil =>
    refine ⟨?_, ?_⟩
    · rw [Desk.run, List.foldl_nil, h.outlets, List.length_singleton]
    · simp [Desk.run, shownOn]
  | cons step steps ih =>
    rw [Desk.run, List.foldl_cons, ← Desk.run]
    cases step with
    | configure verbose quiet next =>
      obtain ⟨hlen, hrec⟩ := ih (step_configure o d verbose quiet next)
      refine ⟨hlen, ?_⟩
      rw [hrec, shownOn]
      exact congrArg (· ++ _) (received_configured ..)
    | emit source r =>
      obtain ⟨hc, hr⟩ := step_emit (o := o) h out source r
      obtain ⟨hlen, hrec⟩ := ih (hc ▸ h)
      refine ⟨hlen, ?_⟩
      rw [hrec, hr, shownOn, String.append_assoc]
      by_cases hs : out = stream ∧ least ≤ r.level <;> simp [hs]

/-- After any configuration the channel has exactly one outlet, and what a stream receives are the
lines of the records that were emitted while it was the one of the last configuration and that this
lets through: each once, whatever its source. -/
theorem received_run (o : Outside) (d : Desk) (before after : List Step) (verbose quiet : Bool)
    (stream : Option String) (out : String) :
    let configured := d.run o (before ++ [.configure verbose quiet stream])
    (configured.run o after).channel.outlets.length = 1 ∧
      (configured.run o after).received out = configured.received out ++
        String.join ((shownOn out (stream.getD errorStream) (leastLevel verbose quiet) after).map
          Record.line) := by
  intro configured
  refine received_run_of_isConfigured after ?_
  show IsConfigured (d.run o (before ++ [.configure verbose quiet stream])).channel _ _
  rw [Desk.run, List.foldl_append, List.foldl_cons, List.foldl_nil]
  exact step_configure ..

end RemoteBindings.Journal
