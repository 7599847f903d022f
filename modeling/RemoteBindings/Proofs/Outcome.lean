import RemoteBindings.CommandLine.Program

/-!
# How commands end

What a command prints or reports leaves the disk as it is. A command that reports a failure or halts
has the exit code 1 (`exitCode_endWith`, `exitCode_endWithFault`). One that prints some pieces ends
with 0 exactly if all of them can be shown (`exitCode_printAll`). A message of a failure is only left
by a run with the exit code 1 (`accountsFor_run`), so a run that succeeds prints nothing but words of
the program (`console_run`).
-/

namespace RemoteBindings.CommandLine

variable {o : Outcome} {p : Console.Printed} {path : Path}

namespace Outcome

/-- Nothing has gone wrong so far. -/
structure Running (o : Outcome) : Prop where
  exitCode : o.exitCode = 0
  stop : o.stop = none

@[simp] theorem disk_print (o : Outcome) (p : Console.Printed) : (o.print p).disk = o.disk := by
  unfold print
  split
  · rfl
  · split <;> rfl

@[simp] theorem disk_halt (o : Outcome) (s : Stop) : (o.halt s).disk = o.disk := rfl
@[simp] theorem exitCode_halt (o : Outcome) (s : Stop) : (o.halt s).exitCode = 1 := rfl

@[simp] theorem disk_log (o : Outcome) (d : Journal.Detail) (rs : List Journal.Record) :
    (o.log d rs).disk = o.disk := rfl

theorem Running.log (h : o.Running) (d : Journal.Detail) (rs : List Journal.Record) :
    (o.log d rs).Running := ⟨h.exitCode, h.stop⟩

theorem Running.print_ok (h : o.Running) (s : String) : (o.print (.ok s)).Running := by
  simp only [print, h.stop]
  exact ⟨h.exitCode, rfl⟩

theorem print_error (h : o.stop = none) (f : Console.MarkupFault) :
    o.print (.error f) = o.halt (.markup f) := by
  rw [print, h]
  rfl

theorem print_of_stop (h : o.stop ≠ none) (p : Console.Printed) : o.print p = o := by
  obtain ⟨s, hs⟩ := Option.ne_none_iff_exists'.mp h
  simp only [print, hs]

/-- What is printed last decides how a command ends. -/
theorem exitCode_print (h : o.Running) (p : Console.Printed) :
    (o.print p).exitCode = 0 ↔ p.isOk = true := by
  cases p with
  | ok s => simp [(h.print_ok s).exitCode, Except.isOk, Except.toBool]
  | error f => simp [print_error h.stop, Except.isOk, Except.toBool]

end Outcome

/-! ## Failures -/

theorem disk_reportFailure (o : Outcome) (today verb message : String) :
    (reportFailure o today verb message).disk = o.disk := by
  unfold reportFailure
  simp only
  split <;> rfl

theorem exitCode_reportFailure (o : Outcome) (today verb message : String) :
    (reportFailure o today verb message).exitCode = 1 := by
  unfold reportFailure
  simp only
  split <;> rfl

theorem disk_endWith (o : Outcome) (today verb : String) (path : Path)
    (e : Descriptor.LoadError) : (endWith o today verb path e).disk = o.disk := by
  unfold endWith
  split
  · exact disk_reportFailure ..
  · split <;> rfl

/-- Every error of a descriptor file is either reported or halts the program. -/
theorem exitCode_endWith (o : Outcome) (today verb : String) (path : Path)
    (e : Descriptor.LoadError) : (endWith o today verb path e).exitCode = 1 := by
  unfold endWith
  split
  · exact exitCode_reportFailure ..
  · rename_i hr
    cases e with
    | refused r => exact absurd rfl hr
    | _ => rfl

theorem disk_endWithFault (o : Outcome) (today verb : String) (f : Fault) :
    (endWithFault o today verb f).disk = o.disk := by
  unfold endWithFault
  split
  · exact disk_reportFailure ..
  · rfl

theorem exitCode_endWithFault (o : Outcome) (today verb : String) (f : Fault) :
    (endWithFault o today verb f).exitCode = 1 := by
  unfold endWithFault
  split
  · exact exitCode_reportFailure ..
  · rfl

/-! ## Pieces -/

/-- What is printed of some pieces, up to one that cannot be shown. -/
def printAll (o : Outcome) (pieces : List Piece) : Outcome :=
  pieces.foldl (fun o piece => o.print piece.printed) o

theorem printAll_of_stop (h : o.stop ≠ none) (pieces : List Piece) : printAll o pieces = o := by
  induction pieces with
  | nil => rfl
  | cons piece pieces ih => rwa [printAll, List.foldl_cons, Outcome.print_of_stop h]

theorem exitCode_printAll (h : o.Running) (pieces : List Piece) :
    (printAll o pieces).exitCode = 0 ↔ ∀ piece ∈ pieces, piece.printed.isOk = true := by
  induction pieces generalizing o with
  | nil => simp [printAll, h.exitCode]
  | cons piece pieces ih =>
    rw [printAll, List.foldl_cons, ← printAll, List.forall_mem_cons]
    cases piece.printed with
    | ok s => exact (ih (h.print_ok s)).trans (and_iff_right rfl).symm
    | error f =>
      rw [Outcome.print_error h.stop, printAll_of_stop (by simp [Outcome.halt])]
      simp [Except.isOk, Except.toBool]

/-! ## Messages of failures -/

/-- The message of a failure comes with the exit code of one. -/
def Outcome.AccountsFor (o : Outcome) : Prop := o.failure = none ∨ o.exitCode = 1

namespace Outcome

theorem AccountsFor.print (h : o.AccountsFor) (p : Console.Printed) : (o.print p).AccountsFor := by
  unfold Outcome.print
  split
  · exact h
  · split
    · exact h
    · exact .inr rfl

theorem AccountsFor.log (h : o.AccountsFor) (d : Journal.Detail) (rs : List Journal.Record) :
    (o.log d rs).AccountsFor := h

end Outcome

theorem accountsFor_printAll (h : o.AccountsFor) (pieces : List Piece) :
    (printAll o pieces).AccountsFor := by
  induction pieces generalizing o with
  | nil => exact h
  | cons piece pieces ih => exact ih (h.print _)

theorem accountsFor_writeFiles (t : Target) (h : o.AccountsFor) (files : List (String × String)) :
    (writeFiles t o files).AccountsFor := by
  induction files generalizing o with
  | nil => exact h
  | cons file files ih =>
    unfold writeFiles
    simp only
    split
    · exact .inr rfl
    · refine ih ?_
      exact h

theorem accountsFor_writeAll (t : Target) (today : String) (h : o.AccountsFor)
    (files : Entries String String) : (writeAll t today o files).AccountsFor := by
  unfold writeAll
  split
  · exact .inr rfl
  · rename_i disk _
    have hmade : Outcome.AccountsFor { o with disk } := h
    have hw := accountsFor_writeFiles t hmade files
    simp only
    split
    · exact hw
    · exact (hw.log _ _).print _

theorem accountsFor_start (s : Surroundings) : Outcome.AccountsFor { disk := s.disk } := .inl rfl

theorem accountsFor_runValidate (s : Surroundings) (path : Path) :
    (runValidate s path).AccountsFor := by
  unfold runValidate
  simp only
  split
  · exact .inr (exitCode_endWith ..)
  · exact (accountsFor_start s).print _

theorem accountsFor_runInspect (s : Surroundings) (path : Path) (classPrefix : String) :
    (runInspect s path classPrefix).AccountsFor := by
  unfold runInspect
  simp only
  split
  · exact .inr (exitCode_endWith ..)
  split
  · exact .inr (exitCode_endWithFault ..)
  · exact accountsFor_printAll (accountsFor_start s) _

theorem accountsFor_runGenerate (s : Surroundings) (path : Path) (t : Target) :
    (runGenerate s path t).AccountsFor := by
  unfold runGenerate
  simp only
  split
  · exact .inr rfl
  split
  · exact .inr (exitCode_endWith ..)
  split
  · exact .inr (exitCode_endWithFault ..)
  split
  · exact .inr rfl
  · exact accountsFor_writeAll t s.today ((accountsFor_start s).log _ _) _

theorem accountsFor_run (s : Surroundings) (args : List String) : (run s args).AccountsFor := by
  have hanswer (settings : Settings) (request : Request) :
      (answer s settings request).AccountsFor := by
    cases request with
    | run c path g =>
      cases c with
      | validate => exact accountsFor_runValidate ..
      | inspect => exact accountsFor_runInspect ..
      | generate => exact accountsFor_runGenerate ..
    | _ => exact .inl rfl
  unfold run
  simp only
  split
  · exact hanswer _ _
  · split
    · exact .inl rfl
    · exact hanswer _ _

/-- All that a successful run prints is in words of the program. -/
theorem console_run {s : Surroundings} {args : List String} (h : (run s args).exitCode = 0) :
    (run s args).console = (run s args).text := by
  have hnone : (run s args).failure = none :=
    (accountsFor_run s args).resolve_right (h ▸ Nat.zero_ne_one)
  rw [Outcome.console, Outcome.text, hnone]
  rfl

/-! ## Settings -/

/-- The settings of a run, unless its environment file is not in UTF-8. -/
def settings? (s : Surroundings) : Option Settings :=
  (environmentText s).map (Settings.read s.environment)

variable {s : Surroundings} {args : List String} {c : Command} {operand : String} {g : Given}

theorem run_of_settings {settings : Settings} (hs : settings? s = some settings)
    (h : Request.ofArguments args = .run c operand g) :
    (run s args).exitCode = (runCommand s settings (Path.ofText operand) g c).exitCode ∧
      (run s args).disk = (runCommand s settings (Path.ofText operand) g c).disk := by
  obtain ⟨text, ht, rfl⟩ := Option.map_eq_some_iff.mp hs
  simp only [run, h, readsSettings, ht]
  exact ⟨rfl, rfl⟩

theorem run_of_settings_eq_none (hs : settings? s = none)
    (h : Request.ofArguments args = .run c operand g) :
    (run s args).exitCode = 1 ∧ (run s args).disk = s.disk := by
  have ht : environmentText s = none := Option.map_eq_none_iff.mp hs
  simp only [run, h, readsSettings, ht]
  exact ⟨rfl, rfl⟩

/-- A command line that is wrong fails, and nothing is written. -/
theorem run_of_wrong {e : UsageError} (h : Request.ofArguments args = .wrong e) :
    (run s args).exitCode ≠ 0 ∧ (run s args).disk = s.disk := by
  simp only [run, h, answer]
  split
  · exact ⟨Nat.succ_ne_zero 1, rfl⟩
  · split
    · exact ⟨Nat.one_ne_zero, rfl⟩
    · exact ⟨Nat.succ_ne_zero 1, rfl⟩

end RemoteBindings.CommandLine
