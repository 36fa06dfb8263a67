import SqlScaffold.Proofs.Emit.Delivery
import SqlScaffold.Proofs.Report
import SqlScaffold.Run.Basic

/-!
Summaries of runs. What a run adds to its report is told by its inputs and by the answers of its
emitter: every input is rejected, or it declares a model that no template accepts, or its units are
delivered. The step lemma summarizes one input, and summaries of two parts of a run make up one of
both.
-/

namespace SqlScaffold.Run

open Emit Scan

def modelOf? (generator : Generator) (input : Input) : Option Model :=
  (input.scan generator.settings.packageName).value.toOption

def scannedModels (generator : Generator) (inputs : List Input) : List Model :=
  inputs.filterMap (modelOf? generator)

def unitsOf (generator : Generator) (input : Input) : List SourceUnit :=
  match modelOf? generator input with
  | some model => (generator.units model).toOption.getD []
  | none => []

def generatedUnits (generator : Generator) (inputs : List Input) : List SourceUnit :=
  inputs.flatMap (unitsOf generator)

def scanDiagnostic? (generator : Generator) (index : Nat) (input : Input) : Option Diagnostic :=
  match (input.scan generator.settings.packageName).value with
  | .error (.rejected error) => some ⟨"scan", input.describe index, error.message⟩
  | _ => none

def scanDiagnostics (generator : Generator) : Nat → List Input → List Diagnostic
  | _, [] => []
  | index, input :: rest =>
    (scanDiagnostic? generator index input).toList ++ scanDiagnostics generator (index + 1) rest

def generationDiagnostic? (generator : Generator) (input : Input) : Option Diagnostic :=
  match modelOf? generator input with
  | none => none
  | some model =>
    match generator.units model with
    | .error (.template error) => some ⟨"generation", model.qualifiedName, error.message⟩
    | _ => none

def generationDiagnostics (generator : Generator) (inputs : List Input) : List Diagnostic :=
  inputs.filterMap (generationDiagnostic? generator)

inductive Passes (generator : Generator) (input : Input) : Prop
  | rejected {error} :
      (input.scan generator.settings.packageName).value = .error (.rejected error) →
      Passes generator input
  | ungenerated {model error} :
      (input.scan generator.settings.packageName).value = .ok model →
      generator.units model = .error (.template error) → Passes generator input
  | generated {model units} :
      (input.scan generator.settings.packageName).value = .ok model →
      generator.units model = .ok units → Passes generator input

structure Summary {σ : Type} (generator : Generator) (emitter : Emitter σ) (index : Nat)
    (inputs : List Input) (state : σ) (deliveries : List Delivery) (report : Report)
    (final : σ) : Prop where
  passed : ∀ input ∈ inputs, Passes generator input
  delivered : Delivers emitter state deliveries final
  generated : deliveries.map Delivery.unit = generatedUnits generator inputs
  units : report.units = storedUnits deliveries
  scans : report.ofKind "scan" = scanDiagnostics generator index inputs
  generations : report.ofKind "generation" = generationDiagnostics generator inputs
  emissions : report.ofKind "emission" = refusals deliveries
  kinds : ∀ diagnostic ∈ report.diagnostics,
    diagnostic.kind = "scan" ∨ diagnostic.kind = "generation" ∨ diagnostic.kind = "emission"
  warnings : report.warnings = (scannedModels generator inputs).flatMap (warningsOf generator)
  scanned : report.scanned = (scannedModels generator inputs).length

variable {σ : Type} {generator : Generator} {emitter : Emitter σ}

theorem Summary.empty (index : Nat) (state : σ) :
    Summary generator emitter index [] state [] {} state where
  passed := by simp
  delivered := .nil state
  generated := rfl
  units := rfl
  scans := rfl
  generations := rfl
  emissions := rfl
  kinds := by simp
  warnings := rfl
  scanned := rfl

theorem Summary.cons {index : Nat} {input : Input} {rest : List Input} {state middle final : σ}
    {first second : List Delivery} {earlier later : Report}
    (step : Summary generator emitter index [input] state first earlier middle)
    (run : Summary generator emitter (index + 1) rest middle second later final) :
    Summary generator emitter index (input :: rest) state (first ++ second)
      (earlier.append later) final where
  passed := by
    intro other member
    rcases List.mem_cons.mp member with here | there
    · exact step.passed other (by simp [here])
    · exact run.passed other there
  delivered := step.delivered.append run.delivered
  generated := by
    simp [step.generated, run.generated, generatedUnits]
  units := by
    simp [Report.append, step.units, run.units, storedUnits]
  scans := by
    simp [step.scans, run.scans, scanDiagnostics]
  generations := by
    rw [Report.ofKind_append, step.generations, run.generations]
    simp only [generationDiagnostics]
    rw [← List.filterMap_append, List.singleton_append]
  emissions := by
    simp [step.emissions, run.emissions, refusals]
  kinds := by
    intro diagnostic member
    rcases List.mem_append.mp member with before | behind
    · exact step.kinds diagnostic before
    · exact run.kinds diagnostic behind
  warnings := by
    simp only [Report.append, step.warnings, run.warnings, scannedModels]
    rw [← List.flatMap_append, ← List.filterMap_append, List.singleton_append]
  scanned := by
    simp only [Report.append, step.scanned, run.scanned, scannedModels]
    rw [← Int.natCast_add, ← List.length_append, ← List.filterMap_append, List.singleton_append]

theorem Summary.generated_iff {index : Nat} {inputs : List Input} {state final : σ}
    {deliveries : List Delivery} {report : Report}
    (summary : Summary generator emitter index inputs state deliveries report final) :
    generationDiagnostics generator inputs = [] ↔
      ∀ diagnostic ∈ report.diagnostics,
        diagnostic.kind = "scan" ∨ diagnostic.kind = "emission" := by
  rw [← summary.generations, Report.ofKind, List.filter_eq_nil_iff]
  constructor
  · intro generated diagnostic member
    rcases summary.kinds diagnostic member with scan | generation | emission
    · exact Or.inl scan
    · exact absurd (by simp [generation]) (generated diagnostic member)
    · exact Or.inr emission
  · intro kinds diagnostic member
    rcases kinds diagnostic member with scan | emission
    · simp [scan]
    · simp [emission]

theorem andThen_returns_iff (first : Logged (Progress σ))
    (next : Report → σ → Logged (Progress σ)) :
    (andThen first next).value.failure = none ↔ first.value.failure = none ∧
      (next first.value.report first.value.state).value.failure = none := by
  unfold andThen
  cases ended : first.value.failure with
  | some failure => simp [ended]
  | none => simp

theorem value_andThen {first : Logged (Progress σ)} (next : Report → σ → Logged (Progress σ))
    (going : first.value.failure = none) :
    (andThen first next).value = (next first.value.report first.value.state).value := by
  simp [andThen, going]

theorem value_andThen_congr {first second : Logged (Progress σ)}
    (next : Report → σ → Logged (Progress σ)) (same : first.value = second.value) :
    (andThen first next).value = (andThen second next).value := by
  unfold andThen
  rw [same]
  cases second.value.failure with
  | some failure => exact same
  | none => rfl

def deliveryReport (deliveries : List Delivery) : Report where
  units := storedUnits deliveries
  diagnostics := refusals deliveries

/-- An emission that is answered delivers its unit; no other emission lets a run go on. -/
theorem emitUnit_delivers {unit : SourceUnit} {report : Report} {state : σ}
    (returned : (emitUnit emitter unit report state).value.failure = none) :
    ∃ refusal, Delivers emitter state [⟨unit, refusal⟩]
        (emitUnit emitter unit report state).value.state ∧
      (emitUnit emitter unit report state).value.report =
        report.append (deliveryReport [⟨unit, refusal⟩]) := by
  cases answer : (emitter state unit).outcome.value with
  | ok path =>
    refine ⟨none, ?_, ?_⟩
    · simpa [emitUnit, answer, Logged.silent] using Delivers.stored answer (.nil _)
    · simp [emitUnit, answer, Logged.silent, Report.addUnit, Report.append, deliveryReport,
        storedUnits, refusals, Delivery.stored?, Delivery.diagnostic?]
  | error failure =>
    cases failure with
    | refused error =>
      refine ⟨some error, ?_, ?_⟩
      · simpa [emitUnit, answer, noted, Logged.map] using Delivers.refused answer (.nil _)
      · simp [emitUnit, answer, noted, Logged.map, Report.addDiagnostic, Report.append,
          deliveryReport, storedUnits, refusals, Delivery.stored?, Delivery.diagnostic?]
    | access error => simp [emitUnit, answer, stopped, Logged.silent] at returned
    | markup error => simp [emitUnit, answer, stopped, Logged.silent] at returned

theorem deliveryReport_append (first second : List Delivery) :
    (deliveryReport first).append (deliveryReport second) = deliveryReport (first ++ second) := by
  simp [deliveryReport, Report.append, storedUnits, refusals]

theorem emitUnits_delivers {units : List SourceUnit} {report : Report} {state : σ}
    (returned : (emitUnits emitter units report state).value.failure = none) :
    ∃ deliveries, deliveries.map Delivery.unit = units ∧
      Delivers emitter state deliveries (emitUnits emitter units report state).value.state ∧
      (emitUnits emitter units report state).value.report =
        report.append (deliveryReport deliveries) := by
  induction units generalizing report state with
  | nil => exact ⟨[], rfl, .nil state, (Report.append_empty report).symm⟩
  | cons unit rest ih =>
    simp only [emitUnits] at returned ⊢
    obtain ⟨going, later⟩ := (andThen_returns_iff _ _).mp returned
    rw [value_andThen _ going]
    obtain ⟨refusal, delivered, reported⟩ := emitUnit_delivers going
    obtain ⟨deliveries, same, further, added⟩ := ih later
    refine ⟨⟨unit, refusal⟩ :: deliveries, by simp [same], delivered.append further, ?_⟩
    rw [added, reported, Report.append_assoc, deliveryReport_append, List.singleton_append]

def rejectionReport (index : Nat) (input : Input) (error : ScanError) : Report where
  diagnostics := [⟨"scan", input.describe index, error.message⟩]

def ungeneratedReport (generator : Generator) (model : Model) (error : Template.TemplateError) :
    Report where
  diagnostics := [⟨"generation", model.qualifiedName, error.message⟩]
  warnings := warningsOf generator model
  scanned := 1

def modelReport (generator : Generator) (model : Model) : Report where
  warnings := warningsOf generator model
  scanned := 1

theorem value_runInput_rejected {index : Nat} {input : Input} {error : ScanError}
    (report : Report) (state : σ)
    (scanned : (input.scan generator.settings.packageName).value = .error (.rejected error)) :
    (runInput generator emitter index input report state).value =
      ⟨report.append (rejectionReport index input error), state, none⟩ := by
  simp [runInput, scanned, noted, Logged.map, Report.addDiagnostic, Report.append,
    rejectionReport]

theorem value_runInput_scanned {index : Nat} {input : Input} {model : Model}
    (report : Report) (state : σ)
    (scanned : (input.scan generator.settings.packageName).value = .ok model) :
    (runInput generator emitter index input report state).value =
      match generator.units model with
      | .error (.template error) =>
        ⟨report.append (ungeneratedReport generator model error), state, none⟩
      | .error (.name error) =>
        ⟨report.append (modelReport generator model), state, some (.name error)⟩
      | .error (.blanks error) =>
        ⟨report.append (modelReport generator model), state, some (.blanks error)⟩
      | .ok units =>
        (emitUnits emitter units (report.append (modelReport generator model)) state).value := by
  have counted : report.addScanned.addWarnings (warningsOf generator model) =
      report.append (modelReport generator model) := by
    simp [Report.addScanned, Report.addWarnings, Report.append, modelReport]
  simp only [runInput, scanned, Logged.value_after, runModel, Generator.generate]
  cases made : generator.units model with
  | ok units => simp [counted]
  | error failure =>
    cases failure with
    | template error =>
      simp [noted, Logged.silent, Logged.map, Report.addDiagnostic, Report.append,
        Report.addScanned, Report.addWarnings, ungeneratedReport]
    | name error => simp [stopped, Logged.silent, counted]
    | blanks error => simp [stopped, Logged.silent, counted]

theorem value_runFrom_rejected {index : Nat} {input : Input} {error : ScanError}
    (rest : List Input) (report : Report) (state : σ)
    (scanned : (input.scan generator.settings.packageName).value = .error (.rejected error)) :
    (runFrom generator emitter index (input :: rest) report state).value =
      (runFrom generator emitter (index + 1) rest
        (report.append (rejectionReport index input error)) state).value := by
  have noted : (runInput generator emitter index input report state).value =
      (Logged.silent (Progress.mk (report.append (rejectionReport index input error)) state
        none)).value := value_runInput_rejected report state scanned
  exact value_andThen_congr _ noted

theorem value_runFrom_generated {index : Nat} {input : Input} {model : Model}
    {units : List SourceUnit} (rest : List Input) (report : Report) (state : σ)
    (scanned : (input.scan generator.settings.packageName).value = .ok model)
    (made : generator.units model = .ok units) :
    (runFrom generator emitter index (input :: rest) report state).value =
      (andThen (emitUnits emitter units (report.append (modelReport generator model)) state)
        (runFrom generator emitter (index + 1) rest)).value := by
  refine value_andThen_congr _ ?_
  rw [value_runInput_scanned report state scanned, made]

theorem Summary.rejected {index : Nat} {input : Input} {error : ScanError} (state : σ)
    (scanned : (input.scan generator.settings.packageName).value = .error (.rejected error)) :
    Summary generator emitter index [input] state [] (rejectionReport index input error) state where
  passed := by simpa using Passes.rejected scanned
  delivered := .nil state
  generated := by simp [generatedUnits, unitsOf, modelOf?, scanned, Except.toOption]
  units := rfl
  scans := by simp [Report.ofKind, rejectionReport, scanDiagnostics, scanDiagnostic?, scanned]
  generations := by
    simp [Report.ofKind, rejectionReport, generationDiagnostics, generationDiagnostic?, modelOf?,
      scanned, Except.toOption]
  emissions := rfl
  kinds := by simp [rejectionReport]
  warnings := by simp [rejectionReport, scannedModels, modelOf?, scanned, Except.toOption]
  scanned := by simp [rejectionReport, scannedModels, modelOf?, scanned, Except.toOption]

theorem Summary.ungenerated {index : Nat} {input : Input} {model : Model}
    {error : Template.TemplateError} (state : σ)
    (scanned : (input.scan generator.settings.packageName).value = .ok model)
    (failed : generator.units model = .error (.template error)) :
    Summary generator emitter index [input] state [] (ungeneratedReport generator model error)
      state where
  passed := by simpa using Passes.ungenerated scanned failed
  delivered := .nil state
  generated := by simp [generatedUnits, unitsOf, modelOf?, scanned, failed, Except.toOption]
  units := rfl
  scans := by simp [Report.ofKind, ungeneratedReport, scanDiagnostics, scanDiagnostic?, scanned]
  generations := by
    simp [Report.ofKind, ungeneratedReport, generationDiagnostics, generationDiagnostic?, modelOf?,
      scanned, failed, Except.toOption]
  emissions := rfl
  kinds := by simp [ungeneratedReport]
  warnings := by simp [ungeneratedReport, scannedModels, modelOf?, scanned, Except.toOption]
  scanned := by simp [ungeneratedReport, scannedModels, modelOf?, scanned, Except.toOption]

theorem ofKind_deliveryReport (kind : String) (deliveries : List Delivery) :
    (deliveryReport deliveries).ofKind kind =
      if kind = "emission" then refusals deliveries else [] := by
  unfold deliveryReport Report.ofKind
  split
  · next same =>
    rw [List.filter_eq_self]
    intro diagnostic member
    simp [kind_of_mem_refusals member, same]
  · next other =>
    rw [List.filter_eq_nil_iff]
    intro diagnostic member
    simpa [kind_of_mem_refusals member] using fun same => other (Eq.symm same)

theorem Summary.generation {index : Nat} {input : Input} {model : Model}
    {units : List SourceUnit} {state final : σ} {deliveries : List Delivery}
    (scanned : (input.scan generator.settings.packageName).value = .ok model)
    (made : generator.units model = .ok units) (same : deliveries.map Delivery.unit = units)
    (delivered : Delivers emitter state deliveries final) :
    Summary generator emitter index [input] state deliveries
      ((modelReport generator model).append (deliveryReport deliveries)) final where
  passed := by simpa using Passes.generated scanned made
  delivered := delivered
  generated := by simp [same, generatedUnits, unitsOf, modelOf?, scanned, made, Except.toOption]
  units := rfl
  scans := by
    rw [Report.ofKind_append, ofKind_deliveryReport]
    simp [Report.ofKind, modelReport, scanDiagnostics, scanDiagnostic?, scanned]
  generations := by
    rw [Report.ofKind_append, ofKind_deliveryReport]
    simp [Report.ofKind, modelReport, generationDiagnostics, generationDiagnostic?, modelOf?,
      scanned, made, Except.toOption]
  emissions := by
    rw [Report.ofKind_append, ofKind_deliveryReport]
    simp [Report.ofKind, modelReport]
  kinds := by
    intro diagnostic member
    have refused : diagnostic ∈ refusals deliveries := by
      simpa [Report.append, modelReport, deliveryReport] using member
    exact Or.inr (Or.inr (kind_of_mem_refusals refused))
  warnings := by
    simp [Report.append, modelReport, deliveryReport, scannedModels, modelOf?, scanned,
      Except.toOption]
  scanned := by
    simp [Report.append, modelReport, deliveryReport, scannedModels, modelOf?, scanned,
      Except.toOption]

/-- The step of a run: what one input adds to the report. -/
theorem runInput_summary {index : Nat} {input : Input} {report : Report} {state : σ}
    (returned : (runInput generator emitter index input report state).value.failure = none) :
    ∃ deliveries added,
      Summary generator emitter index [input] state deliveries added
        (runInput generator emitter index input report state).value.state ∧
      (runInput generator emitter index input report state).value.report =
        report.append added := by
  cases scanned : (input.scan generator.settings.packageName).value with
  | error failure =>
    cases failure with
    | unhashable value => simp [runInput, scanned, stopped, Logged.silent] at returned
    | rejected error =>
      rw [value_runInput_rejected report state scanned]
      exact ⟨[], _, Summary.rejected state scanned, rfl⟩
  | ok model =>
    rw [value_runInput_scanned report state scanned] at returned ⊢
    cases made : generator.units model with
    | error failure =>
      cases failure with
      | template error => exact ⟨[], _, Summary.ungenerated state scanned made, rfl⟩
      | name error => simp [made] at returned
      | blanks error => simp [made] at returned
    | ok units =>
      simp only [made] at returned ⊢
      obtain ⟨deliveries, same, delivered, added⟩ := emitUnits_delivers returned
      refine ⟨deliveries, _, Summary.generation scanned made same delivered, ?_⟩
      rw [added, Report.append_assoc]

theorem runFrom_summary {index : Nat} {inputs : List Input} {report : Report} {state : σ}
    (returned : (runFrom generator emitter index inputs report state).value.failure = none) :
    ∃ deliveries added,
      Summary generator emitter index inputs state deliveries added
        (runFrom generator emitter index inputs report state).value.state ∧
      (runFrom generator emitter index inputs report state).value.report =
        report.append added := by
  induction inputs generalizing index report state with
  | nil => exact ⟨[], {}, Summary.empty index state, (Report.append_empty report).symm⟩
  | cons input rest ih =>
    simp only [runFrom] at returned ⊢
    obtain ⟨going, later⟩ := (andThen_returns_iff _ _).mp returned
    rw [value_andThen _ going]
    obtain ⟨first, earlier, step, reported⟩ := runInput_summary going
    obtain ⟨second, behind, further, added⟩ := ih later
    refine ⟨first ++ second, earlier.append behind, step.cons further, ?_⟩
    rw [added, reported, Report.append_assoc]

theorem value_run (inputs : List Input) (state : σ) :
    (run generator emitter inputs state).value =
      (runFrom generator emitter 0 inputs {} state).value := by
  unfold run andThen
  cases ended : (runFrom generator emitter 0 inputs {} state).value.failure with
  | some failure => simp
  | none =>
    simp only [Logged.value_after, ← ended]

theorem run_summary {inputs : List Input} {state : σ}
    (returned : (run generator emitter inputs state).value.failure = none) :
    ∃ deliveries, Summary generator emitter 0 inputs state deliveries
      (run generator emitter inputs state).value.report
      (run generator emitter inputs state).value.state := by
  rw [value_run] at returned ⊢
  obtain ⟨deliveries, added, summary, reported⟩ := runFrom_summary returned
  rw [Report.empty_append] at reported
  exact ⟨deliveries, reported ▸ summary⟩

/-- A run that has no unit refused stores all that it generates. -/
theorem units_of_unrefused {inputs : List Input} {state : σ}
    (returned : (run generator emitter inputs state).value.failure = none)
    (unrefused : (run generator emitter inputs state).value.report.ofKind "emission" = []) :
    (run generator emitter inputs state).value.report.units = generatedUnits generator inputs := by
  obtain ⟨deliveries, summary⟩ := run_summary returned
  have all := storedUnits_of_unrefused (summary.emissions.symm.trans unrefused)
  rw [summary.units, all, summary.generated]

theorem units_of_isSuccess {inputs : List Input} {state : σ}
    (returned : (run generator emitter inputs state).value.failure = none)
    (success : (run generator emitter inputs state).value.report.isSuccess) :
    (run generator emitter inputs state).value.report.units = generatedUnits generator inputs := by
  refine units_of_unrefused returned ?_
  rw [Report.ofKind, List.isEmpty_iff.mp success, List.filter_nil]

end SqlScaffold.Run
