import SqlScaffold.Emit.Destination
import SqlScaffold.Proofs.Generator
import SqlScaffold.Proofs.Run.Course

/-!
Runs in parts. A run over two lists does what a run over the first does and then a run over the
second with the same emitter, and a rejected input leaves nothing behind but its diagnostic. Only
the places by which inputs without a name are called are counted from the start of each run.
-/

namespace SqlScaffold.Run

open Emit Scan

/-- The diagnostics of the same inputs behind `first` others and behind `second` others. They are
equal one by one, but that every rejected input without a name, and nothing else, is called by a
place that is counted anew. -/
def Renumbered (generator : Generator) (inputs : List Input) (first second : Nat)
    (before after : List Diagnostic) : Prop :=
  ∃ notes : List Note, notes.filterMap Note.nameless? = namelessRejections generator 0 inputs ∧
    before = notes.map (Note.diagnostic first) ∧ after = notes.map (Note.diagnostic second)

/-- The outcome of a run over `first ++ second` against those of a run over `first` and of a run
over `second` behind it. -/
structure Composes {σ : Type} (generator : Generator) (first second : List Input)
    (earlier later whole : Progress σ) : Prop where
  returned : whole.failure = none
  state : whole.state = later.state
  units : whole.report.units = earlier.report.units ++ later.report.units
  warnings : whole.report.warnings = earlier.report.warnings ++ later.report.warnings
  scanned : whole.report.scanned = earlier.report.scanned + later.report.scanned
  diagnostics : ∃ renumbered,
    Renumbered generator second 0 first.length later.report.diagnostics renumbered ∧
      whole.report.diagnostics = earlier.report.diagnostics ++ renumbered

structure Isolates {σ : Type} (generator : Generator) (before : List Input) (input : Input)
    (after : List Input) (whole rest : Progress σ) : Prop where
  returned : rest.failure = none
  state : rest.state = whole.state
  units : rest.report.units = whole.report.units
  warnings : rest.report.warnings = whole.report.warnings
  scanned : rest.report.scanned = whole.report.scanned
  diagnostics : ∃ error earlier later renumbered,
    (input.scan generator.settings.packageName).value = .error (.rejected error) ∧
      whole.report.diagnostics =
        earlier ++ ⟨"scan", input.describe before.length, error.message⟩ :: later ∧
      Renumbered generator after (before.length + 1) before.length later renumbered ∧
      rest.report.diagnostics = earlier ++ renumbered

variable {σ : Type} {generator : Generator} {emitter : Emitter σ}

theorem returns_of_append (first second : List Input) {state : σ}
    (returned : (run generator emitter (first ++ second) state).value.failure = none) :
    (run generator emitter first state).value.failure = none := by
  rw [value_run, runFrom_append, andThen_returns_iff] at returned
  rw [value_run]
  exact returned.1

theorem value_run_append {first : List Input} (second : List Input) {state : σ}
    (going : (run generator emitter first state).value.failure = none) :
    (run generator emitter (first ++ second) state).value =
      (runFrom generator emitter first.length second
        (run generator emitter first state).value.report
        (run generator emitter first state).value.state).value := by
  rw [value_run first] at going ⊢
  rw [value_run, runFrom_append, value_andThen _ going, Nat.zero_add]

theorem run_composes {first second : List Input} {state : σ}
    (going : (run generator emitter first state).value.failure = none)
    (returned : (run generator emitter second
      (run generator emitter first state).value.state).value.failure = none) :
    Composes generator first second (run generator emitter first state).value
      (run generator emitter second (run generator emitter first state).value.state).value
      (run generator emitter (first ++ second) state).value := by
  obtain ⟨course, follows, named⟩ := runFrom_course generator emitter second 0
    (run generator emitter first state).value.state
  have whole := (value_run_append second going).trans
    (follows first.length (run generator emitter first state).value.report)
  have later := (value_run second _).trans (follows 0 {})
  rw [later] at returned ⊢
  rw [whole]
  exact {
    returned
    state := rfl
    units := by simp [Course.progress, Course.added, Report.append]
    warnings := by simp [Course.progress, Course.added, Report.append]
    scanned := by simp [Course.progress, Course.added, Report.append]
    diagnostics := ⟨_, ⟨course.notes, named returned, rfl, rfl⟩, rfl⟩ }

theorem rejected_of_returned {index : Nat} {input : Input} {report : Report} {state : σ}
    {failure : ScanFailure}
    (failed : (input.scan generator.settings.packageName).value = .error failure)
    (returned : (runInput generator emitter index input report state).value.failure = none) :
    ∃ error, failure = .rejected error := by
  cases failure with
  | rejected error => exact ⟨error, rfl⟩
  | unhashable value => simp [runInput, failed, stopped, Logged.silent] at returned

theorem run_isolates {before after : List Input} {input : Input} {state : σ}
    {failure : ScanFailure}
    (failed : (input.scan generator.settings.packageName).value = .error failure)
    (returned : (run generator emitter (before ++ input :: after) state).value.failure = none) :
    Isolates generator before input after
      (run generator emitter (before ++ input :: after) state).value
      (run generator emitter (before ++ after) state).value := by
  have going := returns_of_append before (input :: after) returned
  have whole := value_run_append (input :: after) going
  have rest := value_run_append after going
  -- One course of the inputs behind serves both runs, as it is counted from anywhere.
  obtain ⟨course, follows, named⟩ := runFrom_course generator emitter after 0
    (run generator emitter before state).value.state
  rw [whole] at returned ⊢
  rw [rest]
  generalize (run generator emitter before state).value.report = report at returned ⊢
  generalize (run generator emitter before state).value.state = reached at follows returned ⊢
  obtain ⟨passed, _⟩ := (andThen_returns_iff _ _).mp returned
  obtain ⟨error, rfl⟩ := rejected_of_returned failed passed
  have behind := follows (before.length + 1)
    (report.append (rejectionReport before.length input error))
  have shorter := follows before.length report
  dsimp only [Nat.add_zero] at behind shorter
  rw [value_runFrom_rejected after report reached failed, behind] at returned ⊢
  rw [shorter]
  exact {
    returned
    state := rfl
    units := by simp [Course.progress, Course.added, Report.append, rejectionReport]
    warnings := by simp [Course.progress, Course.added, Report.append, rejectionReport]
    scanned := by simp [Course.progress, Course.added, Report.append, rejectionReport]
    diagnostics := by
      refine ⟨error, report.diagnostics, _, _, failed, ?_,
        ⟨course.notes, named returned, rfl, rfl⟩, rfl⟩
      simp [Course.progress, Course.added, Report.append, rejectionReport] }

/-- Runs compose, and the failed scan of an input is isolated from all others. -/
theorem run_append (generator : Generator) (emitter : Emitter σ) :
    (∀ first second state,
      (run generator emitter first state).value.failure = none →
      (run generator emitter second
        (run generator emitter first state).value.state).value.failure = none →
      Composes generator first second (run generator emitter first state).value
        (run generator emitter second (run generator emitter first state).value.state).value
        (run generator emitter (first ++ second) state).value) ∧
    ∀ before input after state failure,
      (input.scan generator.settings.packageName).value = .error failure →
      (run generator emitter (before ++ input :: after) state).value.failure = none →
      Isolates generator before input after
        (run generator emitter (before ++ input :: after) state).value
        (run generator emitter (before ++ after) state).value :=
  ⟨fun _ _ _ => run_composes, fun _ _ _ _ _ => run_isolates⟩

def declaredModel : Input := .declaration (.object [("name", .text "A")])

def namelessInput : Input := .declaration .null

def namelessInputs : List Input := [declaredModel] ++ namelessInput :: [namelessInput]

/-- The place of a nameless input is counted from the start of the whole run, and moves up when an
input before it is left out. -/
theorem run_append_nameless :
    (run .standard toMemory namelessInputs []).value.report.diagnostics.map Diagnostic.subject =
        ["input #1", "input #2"] ∧
      (namelessInput.scan Generator.standard.settings.packageName).value =
        .error (.rejected (.notDeclaration "NoneType")) ∧
      Composes .standard [declaredModel] [namelessInput]
        (run .standard toMemory [declaredModel] []).value
        (run .standard toMemory [namelessInput]
          (run .standard toMemory [declaredModel] []).value.state).value
        (run .standard toMemory ([declaredModel] ++ [namelessInput]) []).value ∧
      Isolates .standard [declaredModel] namelessInput [namelessInput]
        (run .standard toMemory namelessInputs []).value
        (run .standard toMemory ([declaredModel] ++ [namelessInput]) []).value := by
  have rejected : (namelessInput.scan Generator.standard.settings.packageName).value =
      .error (.rejected (.notDeclaration "NoneType")) := rfl
  have whole : (run .standard toMemory namelessInputs []).value.failure = none ∧
      (run .standard toMemory namelessInputs []).value.report.diagnostics.map
        Diagnostic.subject = ["input #1", "input #2"] := by
    obtain ⟨_, _, made⟩ := Generator.fieldless_ok "" "A" (by decide)
    rw [value_run, namelessInputs, declaredModel, List.singleton_append,
      value_runFrom_generated _ _ _ rfl made]
    exact ⟨rfl, rfl⟩
  unfold namelessInputs at whole ⊢
  have earlier := returns_of_append [declaredModel] (namelessInput :: [namelessInput]) whole.1
  have later : ∀ state, (run .standard toMemory [namelessInput] state).value.failure = none :=
    fun _ => rfl
  refine ⟨whole.2, rejected, ?_, ?_⟩
  · exact (run_append .standard toMemory).1 [declaredModel] [namelessInput] [] earlier (later _)
  · exact (run_append .standard toMemory).2 [declaredModel] namelessInput [namelessInput] [] _
      rejected whole.1

end SqlScaffold.Run
