import SqlScaffold.Proofs.Run.Summary

/-!
Courses of runs: what a run does, apart from what it reported before and from the place at which
its first input stands. The place shows only in the diagnostics of rejected inputs without a name,
and a course keeps them as notes whose places are filled in at the end.
-/

namespace SqlScaffold

open Emit Scan

def Scan.Input.ownName? : Input → Option String
  | .declaration (.object entries) => textAt? entries "name"
  | .modelClass declared => some declared.name
  | _ => none

theorem Scan.Input.describe_eq (input : Input) (index : Nat) :
    input.describe index = input.ownName?.getD ("input #" ++ toString index) := by
  cases input with
  | model finished => rfl
  | declaration value => cases value <;> rfl
  | modelClass declared => rfl

inductive Note where
  | settled (diagnostic : Diagnostic)
  | nameless (place : Nat) (message : String)

namespace Note

def diagnostic (offset : Nat) : Note → Diagnostic
  | settled diagnostic => diagnostic
  | nameless place message => ⟨"scan", "input #" ++ toString (offset + place), message⟩

def nameless? : Note → Option (Nat × String)
  | settled _ => none
  | nameless place message => some (place, message)

end Note

namespace Run

def namelessRejection? (generator : Generator) (place : Nat) (input : Input) :
    Option (Nat × String) :=
  match input.ownName?, (input.scan generator.settings.packageName).value with
  | none, .error (.rejected error) => some (place, error.message)
  | _, _ => none

def namelessRejections (generator : Generator) : Nat → List Input → List (Nat × String)
  | _, [] => []
  | place, input :: rest =>
    (namelessRejection? generator place input).toList ++
      namelessRejections generator (place + 1) rest

structure Course (σ : Type) where
  units : List SourceUnit := []
  notes : List Note := []
  warnings : List String := []
  scanned : Int := 0
  state : σ
  failure : Option RunFailure := none

namespace Course

variable {σ : Type}

def added (course : Course σ) (offset : Nat) : Report where
  units := course.units
  diagnostics := course.notes.map (Note.diagnostic offset)
  warnings := course.warnings
  scanned := course.scanned

def progress (course : Course σ) (offset : Nat) (report : Report) : Progress σ :=
  ⟨report.append (course.added offset), course.state, course.failure⟩

def andThen (first second : Course σ) : Course σ :=
  match first.failure with
  | some _ => first
  | none =>
    { units := first.units ++ second.units
      notes := first.notes ++ second.notes
      warnings := first.warnings ++ second.warnings
      scanned := first.scanned + second.scanned
      state := second.state
      failure := second.failure }

def Names (course : Course σ) (rejections : List (Nat × String)) : Prop :=
  course.failure = none → course.notes.filterMap Note.nameless? = rejections

theorem Names.andThen {first second : Course σ} {earlier later : List (Nat × String)}
    (here : first.Names earlier) (there : second.Names later) :
    (first.andThen second).Names (earlier ++ later) := by
  intro returned
  unfold Course.andThen at returned ⊢
  cases ended : first.failure with
  | some failure => simp [ended] at returned
  | none =>
    simp only [ended] at returned ⊢
    rw [List.filterMap_append, here ended, there returned]

end Course

variable {σ : Type} {generator : Generator} {emitter : Emitter σ}

def Follows (step : Nat → Report → Logged (Progress σ)) (course : Course σ) : Prop :=
  ∀ offset report, (step offset report).value = course.progress offset report

theorem Follows.andThen {first : Nat → Report → Logged (Progress σ)}
    {second : Nat → Report → σ → Logged (Progress σ)} {earlier later : Course σ}
    (here : Follows first earlier)
    (there : Follows (fun offset report => second offset report earlier.state) later) :
    Follows (fun offset report => Run.andThen (first offset report) (second offset))
      (earlier.andThen later) := by
  intro offset report
  have reached := here offset report
  cases ended : earlier.failure with
  | some failure =>
    have stopped : (first offset report).value.failure = some failure := by
      rw [reached]
      exact ended
    simp only [Run.andThen, stopped, Course.andThen, ended]
    exact reached
  | none =>
    have going : (first offset report).value.failure = none := by
      rw [reached]
      exact ended
    have further := there offset (earlier.progress offset report).report
    rw [value_andThen _ going, reached]
    refine Eq.trans further ?_
    simp [Course.andThen, ended, Course.progress, Course.added, Report.append, Int.add_assoc]

variable (generator emitter)

theorem emitUnit_course (unit : SourceUnit) (state : σ) :
    ∃ course : Course σ, Follows (fun _ report => emitUnit emitter unit report state) course ∧
      course.Names [] := by
  cases answer : (emitter state unit).outcome.value with
  | ok path =>
    refine ⟨{ units := [unit], state := (emitter state unit).state }, ?_, fun _ => rfl⟩
    intro offset report
    simp [emitUnit, answer, Logged.silent, Report.addUnit, Course.progress, Course.added,
      Report.append]
  | error failure =>
    cases failure with
    | refused error =>
      refine ⟨{ notes := [.settled ⟨"emission", unit.qualifiedName, error.message⟩],
                state := (emitter state unit).state }, ?_, fun _ => rfl⟩
      intro offset report
      simp [emitUnit, answer, noted, Logged.map, Report.addDiagnostic, Course.progress,
        Course.added, Report.append, Note.diagnostic]
    | access error =>
      refine ⟨{ state := (emitter state unit).state, failure := some (.access error) }, ?_,
        fun _ => rfl⟩
      intro offset report
      simp [emitUnit, answer, stopped, Logged.silent, Course.progress, Course.added,
        Report.append]
    | markup error =>
      refine ⟨{ state := (emitter state unit).state, failure := some (.markup error) }, ?_,
        fun _ => rfl⟩
      intro offset report
      simp [emitUnit, answer, stopped, Logged.silent, Course.progress, Course.added,
        Report.append]

theorem emitUnits_course (units : List SourceUnit) (state : σ) :
    ∃ course : Course σ, Follows (fun _ report => emitUnits emitter units report state) course ∧
      course.Names [] := by
  induction units generalizing state with
  | nil => exact ⟨{ state }, fun _ report => by simp [emitUnits, Logged.silent, Course.progress,
      Course.added], fun _ => rfl⟩
  | cons unit rest ih =>
    obtain ⟨first, here, unnamed⟩ := emitUnit_course emitter unit state
    obtain ⟨second, there, silent⟩ := ih first.state
    exact ⟨first.andThen second, here.andThen there, unnamed.andThen silent⟩

def rejectionNote (place : Nat) (input : Input) (error : ScanError) : Note :=
  match input.ownName? with
  | some name => .settled ⟨"scan", name, error.message⟩
  | none => .nameless place error.message

theorem diagnostic_rejectionNote (offset place : Nat) (input : Input) (error : ScanError) :
    (rejectionNote place input error).diagnostic offset =
      ⟨"scan", input.describe (offset + place), error.message⟩ := by
  rw [input.describe_eq]
  unfold rejectionNote
  cases input.ownName? with
  | none => rfl
  | some name => rfl

theorem names_rejected {place : Nat} {input : Input} {error : ScanError}
    (scanned : (input.scan generator.settings.packageName).value = .error (.rejected error))
    (state : σ) :
    Course.Names { notes := [rejectionNote place input error], state }
      (namelessRejection? generator place input).toList := by
  intro _
  unfold namelessRejection? rejectionNote
  cases input.ownName? with
  | none => simp [scanned, Note.nameless?]
  | some name => simp [Note.nameless?]

theorem namelessRejection?_scanned {input : Input} {model : Model} (place : Nat)
    (scanned : (input.scan generator.settings.packageName).value = .ok model) :
    namelessRejection? generator place input = none := by
  unfold namelessRejection?
  rw [scanned]
  cases input.ownName? <;> rfl

theorem scannedInput_course (place : Nat) {input : Input} {model : Model} (state : σ)
    (scanned : (input.scan generator.settings.packageName).value = .ok model) :
    ∃ course : Course σ,
      Follows (fun offset report => runInput generator emitter (offset + place) input report state)
        course ∧
      course.Names [] := by
  let warned : Course σ := { warnings := warningsOf generator model, scanned := 1, state }
  cases made : generator.units model with
  | error failure =>
    cases failure with
    | template error =>
      refine ⟨{ warned with
        notes := [.settled ⟨"generation", model.qualifiedName, error.message⟩] }, ?_, fun _ => rfl⟩
      intro offset report
      simp [value_runInput_scanned report state scanned, made, Course.progress, Course.added,
        ungeneratedReport, Note.diagnostic, warned]
    | name error =>
      refine ⟨{ warned with failure := some (.name error) }, ?_, fun _ => rfl⟩
      intro offset report
      simp [value_runInput_scanned report state scanned, made, Course.progress, Course.added,
        modelReport, warned]
    | blanks error =>
      refine ⟨{ warned with failure := some (.blanks error) }, ?_, fun _ => rfl⟩
      intro offset report
      simp [value_runInput_scanned report state scanned, made, Course.progress, Course.added,
        modelReport, warned]
  | ok units =>
    obtain ⟨emitted, there, silent⟩ := emitUnits_course emitter units state
    have here : Follows (fun _ report => .silent ⟨report.append (modelReport generator model),
        state, none⟩) warned := by
      intro offset report
      simp [warned, Logged.silent, Course.progress, Course.added, modelReport]
    have unnamed : warned.Names [] := fun _ => rfl
    refine ⟨warned.andThen emitted, ?_, unnamed.andThen silent⟩
    intro offset report
    rw [← here.andThen there offset report]
    simp only [value_runInput_scanned report state scanned, made]
    rfl

/-- The step of a run: what one input does. -/
theorem runInput_course (place : Nat) (input : Input) (state : σ) :
    ∃ course : Course σ,
      Follows (fun offset report => runInput generator emitter (offset + place) input report state)
        course ∧
      course.Names (namelessRejection? generator place input).toList := by
  cases scanned : (input.scan generator.settings.packageName).value with
  | error failure =>
    cases failure with
    | unhashable value =>
      refine ⟨{ state, failure := some (.unhashable value) }, ?_, by simp [Course.Names]⟩
      intro offset report
      simp [runInput, scanned, stopped, Logged.silent, Course.progress, Course.added]
    | rejected error =>
      refine ⟨{ notes := [rejectionNote place input error], state }, ?_,
        names_rejected generator scanned state⟩
      intro offset report
      rw [value_runInput_rejected report state scanned]
      simp [Course.progress, Course.added, rejectionReport, diagnostic_rejectionNote]
  | ok model =>
    rw [namelessRejection?_scanned generator place scanned]
    exact scannedInput_course generator emitter place state scanned

/-- A run has a course, which does not depend on the place of its first input. -/
theorem runFrom_course (inputs : List Input) (place : Nat) (state : σ) :
    ∃ course : Course σ,
      Follows (fun offset report => runFrom generator emitter (offset + place) inputs report state)
        course ∧
      course.Names (namelessRejections generator place inputs) := by
  induction inputs generalizing place state with
  | nil =>
    refine ⟨{ state }, ?_, fun _ => rfl⟩
    intro offset report
    simp [runFrom, Logged.silent, Course.progress, Course.added]
  | cons input rest ih =>
    -- The place of the first input goes up by one, the number of inputs before it stays.
    obtain ⟨first, here, named⟩ := runInput_course generator emitter place input state
    obtain ⟨second, there, further⟩ := ih (place + 1) first.state
    exact ⟨first.andThen second, here.andThen there, named.andThen further⟩

end Run

end SqlScaffold
