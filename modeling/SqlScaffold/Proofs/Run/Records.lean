import SqlScaffold.Proofs.Emit.Delivery
import SqlScaffold.Run.Basic

/-!
Error records of runs. Scanning and generating record no errors; a run records one for every
diagnostic that it adds, also if it ends early. An emitter may record errors of its own, but none in
the name of a diagnostic.
-/

namespace SqlScaffold

open Emit

def errorRecords (logs : List LogRecord) : List LogRecord :=
  logs.filter fun entry => entry.level == .error

def LogRecord.isDiagnosis (entry : LogRecord) : Bool :=
  entry.level == .error && entry.source == .diagnosing

def Quiet (logs : List LogRecord) : Prop := ∀ entry ∈ logs, entry.level ≠ .error

@[simp] theorem quiet_nil : Quiet [] := by simp [Quiet]

theorem Quiet.append {first second : List LogRecord} (earlier : Quiet first)
    (later : Quiet second) : Quiet (first ++ second) := by
  intro entry member
  rcases List.mem_append.mp member with before | behind
  · exact earlier entry before
  · exact later entry behind

theorem quiet_andThenOk {ε α β : Type} {first : Logged (Except ε α)}
    {next : α → Logged (Except ε β)} (earlier : Quiet first.logs)
    (later : ∀ value, Quiet (next value).logs) : Quiet (first.andThenOk next).logs := by
  unfold Logged.andThenOk
  split
  · exact earlier
  · next value _ => exact earlier.append (later value)

namespace Scan

theorem quiet_debugRecord (message : String) : Quiet [debugRecord message] := by
  simp [Quiet, debugRecord]

theorem quiet_finish (package name : String) (fields : List Field) (table : Option String) :
    Quiet (finish package name fields table).logs := by
  unfold finish
  split
  · exact quiet_nil
  · exact quiet_debugRecord _

theorem quiet_scanMembers (model : String) (members : List Value) (index : Nat) :
    Quiet (scanMembers model index members).logs := by
  induction members generalizing index with
  | nil => exact quiet_nil
  | cons member rest ih =>
    unfold scanMembers
    split
    · next entries =>
      split
      · exact quiet_nil
      · next field _ =>
        split
        · exact quiet_nil
        · dsimp only
          split
          · exact (quiet_debugRecord _).append (ih (index + 1))
          · exact ih (index + 1)
    · exact quiet_nil

theorem quiet_scanDeclaration (entries : Entries) (defaultPackage : Option String) :
    Quiet (scanDeclaration entries defaultPackage).logs := by
  unfold scanDeclaration
  dsimp only
  split
  · exact quiet_nil
  · split
    · exact quiet_nil
    · next name _ =>
      split
      · exact quiet_nil
      · split
        · exact quiet_nil
        · next table _ =>
          split
          · exact quiet_nil
          · next package _ =>
            split
            · exact quiet_andThenOk (quiet_scanMembers name _ 0) fun fields =>
                quiet_finish package _ fields (some table)
            · exact quiet_nil

theorem quiet_scanAttributes (model : String) (attributes : List (String × TypeHint)) :
    Quiet (scanAttributes model attributes).logs := by
  induction attributes with
  | nil => exact quiet_nil
  | cons entry rest ih =>
    obtain ⟨name, hint⟩ := entry
    unfold scanAttributes
    split
    · exact (quiet_debugRecord _).append ih
    · split
      · exact quiet_nil
      · exact quiet_nil
      · exact ih

theorem quiet_scan (input : Input) (defaultPackage : Option String) :
    Quiet (input.scan defaultPackage).logs := by
  unfold Input.scan
  split
  · exact quiet_nil
  · exact quiet_scanDeclaration _ _
  · exact quiet_nil
  · next declared =>
    unfold scanClass
    split
    · exact quiet_nil
    · exact quiet_andThenOk (quiet_scanAttributes _ _) fun fields => quiet_finish _ _ fields _

end Scan

namespace Run

theorem quiet_generate (generator : Generator) (model : Model) :
    Quiet (generator.generate model).logs := by
  unfold Generator.generate
  split
  · exact quiet_nil
  · simp [Quiet, Generator.generatedRecord]

theorem quiet_warnings (warnings : List String) : Quiet (warnings.map warningRecord) := by
  simp [Quiet, warningRecord]

structure PicksDiagnostics (picks : LogRecord → Bool) : Prop where
  errors : ∀ entry, picks entry = true → entry.level = .error
  diagnostics : ∀ diagnostic : Diagnostic, picks diagnostic.record = true

theorem picksDiagnostics_errors : PicksDiagnostics fun entry => entry.level == .error where
  errors entry picked := by simpa using picked
  diagnostics _ := rfl

theorem picksDiagnostics_isDiagnosis : PicksDiagnostics LogRecord.isDiagnosis where
  errors entry picked := by
    simp only [LogRecord.isDiagnosis, Bool.and_eq_true, beq_iff_eq] at picked
    exact picked.1
  diagnostics _ := rfl

variable {σ : Type} {generator : Generator} {emitter : Emitter σ} {picks : LogRecord → Bool}

theorem PicksDiagnostics.filter_quiet (picking : PicksDiagnostics picks) {logs : List LogRecord}
    (quiet : Quiet logs) : logs.filter picks = [] := by
  rw [List.filter_eq_nil_iff]
  exact fun entry member picked => quiet entry member (picking.errors entry picked)

def Unpicked (picks : LogRecord → Bool) (emitter : Emitter σ) : Prop :=
  ∀ state unit, (emitter state unit).outcome.logs.filter picks = []

theorem unpicked_of_leavesNoErrors (quiet : LeavesNoErrors emitter) :
    Unpicked (fun entry => entry.level == .error) emitter :=
  fun state unit => picksDiagnostics_errors.filter_quiet (quiet state unit)

theorem unpicked_isDiagnosis (emitter : Emitter σ) : Unpicked LogRecord.isDiagnosis emitter := by
  intro state unit
  rw [List.filter_eq_nil_iff]
  intro entry member picked
  simp [LogRecord.isDiagnosis, (emitter state unit).own entry member] at picked

def Tells (picks : LogRecord → Bool) (before : Report) (outcome : Logged (Progress σ)) : Prop :=
  ∃ added, outcome.value.report.diagnostics = before.diagnostics ++ added ∧
    outcome.logs.filter picks = added.map Diagnostic.record

theorem Tells.of_same {before : Report} {outcome : Logged (Progress σ)}
    (unpicked : outcome.logs.filter picks = [])
    (same : outcome.value.report.diagnostics = before.diagnostics) : Tells picks before outcome :=
  ⟨[], by simpa using same, by simpa using unpicked⟩

theorem Tells.after {before : Report} {logs : List LogRecord} {outcome : Logged (Progress σ)}
    (unpicked : logs.filter picks = []) (tells : Tells picks before outcome) :
    Tells picks before (.after logs outcome) := by
  obtain ⟨added, reported, recorded⟩ := tells
  refine ⟨added, reported, ?_⟩
  rw [Logged.logs_after, List.filter_append, unpicked, recorded, List.nil_append]

theorem tells_stopped (report : Report) (state : σ) (failure : RunFailure) :
    Tells picks report (stopped report state failure) :=
  .of_same rfl rfl

theorem PicksDiagnostics.tells_noted (picking : PicksDiagnostics picks) (report : Report)
    (state : σ) (diagnostic : Diagnostic) : Tells picks report (noted report state diagnostic) := by
  refine ⟨[diagnostic], rfl, ?_⟩
  have picked := picking.diagnostics diagnostic
  simp [noted, Report.addDiagnostic, Logged.map, picked]

theorem Tells.andThen {before : Report} {first : Logged (Progress σ)}
    {next : Report → σ → Logged (Progress σ)} (earlier : Tells picks before first)
    (later : ∀ report state, Tells picks report (next report state)) :
    Tells picks before (andThen first next) := by
  unfold Run.andThen
  split
  · exact earlier
  · obtain ⟨added, reported, recorded⟩ := earlier
    obtain ⟨more, further, told⟩ := later first.value.report first.value.state
    refine ⟨added ++ more, ?_, ?_⟩
    · rw [Logged.value_after, further, reported, List.append_assoc]
    · rw [Logged.logs_after, List.filter_append, recorded, told, List.map_append]

section Telling

variable (picking : PicksDiagnostics picks) (unpicked : Unpicked picks emitter)

include picking unpicked

theorem emitUnit_tells (unit : SourceUnit) (report : Report) (state : σ) :
    Tells picks report (emitUnit emitter unit report state) := by
  refine Tells.after (unpicked state unit) ?_
  split
  · exact .of_same rfl rfl
  · exact picking.tells_noted _ _ _
  · exact tells_stopped _ _ _
  · exact tells_stopped _ _ _

theorem emitUnits_tells (units : List SourceUnit) (report : Report) (state : σ) :
    Tells picks report (emitUnits emitter units report state) := by
  induction units generalizing report state with
  | nil => exact .of_same rfl rfl
  | cons unit rest ih => exact (emitUnit_tells picking unpicked unit report state).andThen ih

theorem runModel_tells (model : Model) (report : Report) (state : σ) :
    Tells picks report (runModel generator emitter model report state) := by
  have quiet := (quiet_warnings (warningsOf generator model)).append
    (quiet_generate generator model)
  refine Tells.after (picking.filter_quiet quiet) ?_
  have same : ∀ outcome : Logged (Progress σ),
      Tells picks (report.addScanned.addWarnings (warningsOf generator model)) outcome →
        Tells picks report outcome := fun _ tells => tells
  split
  · exact same _ (picking.tells_noted _ _ _)
  · exact same _ (tells_stopped _ _ _)
  · exact same _ (tells_stopped _ _ _)
  · exact same _ (emitUnits_tells picking unpicked _ _ _)

/-- The step of a run: the errors that one input leaves on record. -/
theorem runInput_tells (index : Nat) (input : Scan.Input) (report : Report) (state : σ) :
    Tells picks report (runInput generator emitter index input report state) := by
  refine Tells.after (picking.filter_quiet (Scan.quiet_scan input _)) ?_
  split
  · exact picking.tells_noted _ _ _
  · exact tells_stopped _ _ _
  · exact runModel_tells picking unpicked _ report state

theorem runFrom_tells (inputs : List Scan.Input) (index : Nat) (report : Report) (state : σ) :
    Tells picks report (runFrom generator emitter index inputs report state) := by
  induction inputs generalizing index report state with
  | nil => exact .of_same rfl rfl
  | cons input rest ih =>
    exact (runInput_tells picking unpicked index input report state).andThen (ih (index + 1))

/-- The errors that a run leaves on record are its diagnostics, in order. -/
theorem filter_logs_run (inputs : List Scan.Input) (state : σ) :
    (run generator emitter inputs state).logs.filter picks =
      (run generator emitter inputs state).value.report.diagnostics.map Diagnostic.record := by
  have summarized : ∀ report state, Tells picks report
      (⟨[summaryRecord report], ⟨report, state, none⟩⟩ : Logged (Progress σ)) := by
    intro report state
    exact .of_same (picking.filter_quiet (by simp [Quiet, summaryRecord])) rfl
  have told : Tells picks {} (runFrom generator emitter 0 inputs {} state) :=
    runFrom_tells picking unpicked inputs 0 {} state
  obtain ⟨added, reported, recorded⟩ := told.andThen summarized
  rw [List.nil_append] at reported
  rw [run, recorded, reported]

end Telling

end Run

namespace Emit

theorem quiet_singleton {entry : LogRecord} (quiet : entry.level ≠ .error) : Quiet [entry] := by
  intro other member
  rw [List.mem_singleton.mp member]
  exact quiet

theorem toMemory_leavesNoErrors : LeavesNoErrors toMemory := by
  intro artifacts unit
  unfold toMemory
  dsimp only
  split
  · exact quiet_nil
  · exact quiet_singleton (by simp)

theorem refusing_leavesNoErrors {σ : Type} {emitter : Emitter σ}
    (quiet : LeavesNoErrors emitter) (reason? : SourceUnit → Option String) :
    LeavesNoErrors (refusing reason? emitter) := by
  intro state unit
  unfold refusing
  split
  · exact quiet_nil
  · exact quiet state unit

theorem toDirectory_leavesNoErrors (directory : Directory) :
    LeavesNoErrors (toDirectory directory) := by
  intro tree unit
  unfold toDirectory
  dsimp only
  split
  · exact quiet_nil
  · split
    · exact quiet_nil
    · unfold writeFile
      dsimp only
      split
      · exact quiet_nil
      · split
        · exact quiet_nil
        · exact quiet_singleton (by simp)

theorem toTerminal_leavesNoErrors : LeavesNoErrors toTerminal := by
  intro printout unit
  unfold toTerminal
  split
  · exact quiet_nil
  · exact quiet_nil

/-- No shipped emitter records an error. -/
theorem Destination.leavesNoErrors (destination : Destination) :
    LeavesNoErrors destination.emitter := by
  intro kept unit
  cases destination with
  | memory =>
    simp only [Destination.emitter, keepInMemory, Emission.within]
    exact toMemory_leavesNoErrors kept.artifacts unit
  | guardedMemory reason? =>
    simp only [Destination.emitter, keepInMemory, Emission.within]
    exact refusing_leavesNoErrors toMemory_leavesNoErrors reason? kept.artifacts unit
  | folder directory =>
    simp only [Destination.emitter, Emission.within]
    exact toDirectory_leavesNoErrors directory kept.tree unit
  | terminal =>
    simp only [Destination.emitter, Emission.within]
    exact toTerminal_leavesNoErrors kept.printed unit

end Emit

end SqlScaffold
