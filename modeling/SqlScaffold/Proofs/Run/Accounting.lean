import SqlScaffold.Proofs.Generator
import SqlScaffold.Proofs.Run.Records
import SqlScaffold.Proofs.Run.Summary

/-!
The accounts of a run. Every input is scanned or has a diagnostic, every scanned model is generated
or has one, and every generated unit is stored or has one. The counts of a report therefore settle
whether a run was a success.
-/

namespace SqlScaffold.Run

open Emit Scan

variable {σ : Type} {generator : Generator} {emitter : Emitter σ}

theorem length_scannedModels_add_scanDiagnostics {inputs : List Input}
    (passed : ∀ input ∈ inputs, Passes generator input) (index : Nat) :
    (scannedModels generator inputs).length + (scanDiagnostics generator index inputs).length =
      inputs.length := by
  induction inputs generalizing index with
  | nil => rfl
  | cons input rest ih =>
    have later := ih (fun other member => passed other (List.mem_cons_of_mem input member))
      (index + 1)
    simp only [scannedModels, List.filterMap_cons, scanDiagnostics, List.length_append,
      List.length_cons] at later ⊢
    rcases passed input List.mem_cons_self with scanned | ⟨scanned, _⟩ | ⟨scanned, _⟩
    · simp only [modelOf?, scanDiagnostic?, scanned, Except.toOption, Option.toList_some,
        List.length_singleton]
      omega
    · simp only [modelOf?, scanDiagnostic?, scanned, Except.toOption, Option.toList_none,
        List.length_nil, List.length_cons]
      omega
    · simp only [modelOf?, scanDiagnostic?, scanned, Except.toOption, Option.toList_none,
        List.length_nil, List.length_cons]
      omega

theorem length_units {model : Model} {units : List SourceUnit}
    (made : generator.units model = .ok units) : units.length = 2 := by
  obtain ⟨support, mapper, rfl⟩ := Generator.units_eq_ok made
  rfl

theorem length_generatedUnits {inputs : List Input}
    (passed : ∀ input ∈ inputs, Passes generator input) :
    (generatedUnits generator inputs).length + 2 * (generationDiagnostics generator inputs).length =
      2 * (scannedModels generator inputs).length := by
  induction inputs with
  | nil => rfl
  | cons input rest ih =>
    have later := ih fun other member => passed other (List.mem_cons_of_mem input member)
    simp only [generatedUnits, generationDiagnostics, scannedModels, List.flatMap_cons,
      List.filterMap_cons, List.length_append] at later ⊢
    rcases passed input List.mem_cons_self with scanned | ⟨scanned, failed⟩ | ⟨scanned, made⟩
    · simp only [unitsOf, generationDiagnostic?, modelOf?, scanned, Except.toOption,
        List.length_nil]
      omega
    · simp only [unitsOf, generationDiagnostic?, modelOf?, scanned, failed, Except.toOption,
        Option.getD_none, List.length_nil, List.length_cons]
      omega
    · simp only [unitsOf, generationDiagnostic?, modelOf?, scanned, made, Except.toOption,
        Option.getD_some, length_units made, List.length_cons]
      omega

structure Accounts (generator : Generator) (emitter : Emitter σ) (inputs : List Input)
    (outcome : Logged (Progress σ)) : Prop where
  scans : outcome.value.report.scanned + (outcome.value.report.ofKind "scan").length =
    inputs.length
  emissions :
    outcome.value.report.units.length + (outcome.value.report.ofKind "emission").length =
      2 * (outcome.value.report.scanned - (outcome.value.report.ofKind "generation").length)
  pairs : ∀ model ∈ scannedModels generator inputs, ∀ units, generator.units model = .ok units →
    ∃ support mapper,
      units = [⟨model.package, model.name ++ generator.settings.supportSuffix, support⟩,
        ⟨model.package, model.name ++ generator.settings.mapperSuffix, mapper⟩]
  ordered : outcome.value.report.units.Sublist (generatedUnits generator inputs)
  delivered : ∃ deliveries : List Delivery,
    deliveries.map Delivery.unit = generatedUnits generator inputs ∧
      outcome.value.report.units = storedUnits deliveries ∧
      outcome.value.report.ofKind "emission" = refusals deliveries
  recorded : outcome.logs.filter LogRecord.isDiagnosis =
    outcome.value.report.diagnostics.map Diagnostic.record
  /-- There are no other errors on record, unless the emitter has some of its own. -/
  errors : LeavesNoErrors emitter →
    errorRecords outcome.logs = outcome.value.report.diagnostics.map Diagnostic.record
  success : outcome.value.report.isSuccess ↔
    outcome.value.report.units.length = 2 * inputs.length

/-- A run that returns accounts for all of its inputs and units. -/
theorem run_accounts (generator : Generator) (emitter : Emitter σ) (inputs : List Input)
    (state : σ) (returned : (run generator emitter inputs state).value.failure = none) :
    Accounts generator emitter inputs (run generator emitter inputs state) := by
  obtain ⟨deliveries, summary⟩ := run_summary returned
  have scanned := length_scannedModels_add_scanDiagnostics summary.passed 0
  have generated := length_generatedUnits summary.passed
  have delivered := length_storedUnits_add_refusals deliveries
  have same : deliveries.length = (generatedUnits generator inputs).length := by
    rw [← summary.generated, List.length_map]
  have kinds := Report.length_diagnostics_of_kinds _ (by decide) (by decide) (by decide)
    summary.kinds
  rw [← summary.scans] at scanned
  rw [← summary.generations] at generated
  rw [← summary.units, ← summary.emissions] at delivered
  have counted := summary.scanned
  refine { scans := by omega, emissions := by omega, pairs := ?_, ordered := ?_,
           delivered := ⟨deliveries, summary.generated, summary.units, summary.emissions⟩,
           recorded := ?_, errors := ?_, success := ?_ }
  · intro model _ units made
    exact Generator.units_eq_ok made
  · rw [summary.units, ← summary.generated]
    exact storedUnits_sublist deliveries
  · exact filter_logs_run picksDiagnostics_isDiagnosis (unpicked_isDiagnosis emitter) inputs state
  · intro quiet
    exact filter_logs_run picksDiagnostics_errors (unpicked_of_leavesNoErrors quiet) inputs state
  · -- No diagnostic of any kind is left exactly if all units of all inputs are stored.
    rw [Report.isSuccess, List.isEmpty_iff, ← List.length_eq_zero_iff]
    omega

def mixedInputs : List Input := [.declaration .null, .declaration (.object [("name", .text "A")])]

/-- The first input is rejected, and the mapper of the second is stored already. -/
theorem run_accounts_mixed :
    let outcome := run .standard toMemory mixedInputs [("AMyBatisDSLMapper", "")]
    outcome.value.failure = none ∧
      outcome.value.report.diagnostics.map Diagnostic.kind = ["scan", "emission"] ∧
      Accounts .standard toMemory mixedInputs outcome ∧
      errorRecords outcome.logs = outcome.value.report.diagnostics.map Diagnostic.record := by
  have ended :
      (run .standard toMemory mixedInputs [("AMyBatisDSLMapper", "")]).value.failure = none ∧
      (run .standard toMemory mixedInputs
        [("AMyBatisDSLMapper", "")]).value.report.diagnostics.map Diagnostic.kind =
          ["scan", "emission"] := by
    obtain ⟨_, _, made⟩ := Generator.fieldless_ok "" "A" (by decide)
    rw [value_run, mixedInputs, value_runFrom_rejected _ _ _ rfl,
      value_runFrom_generated _ _ _ rfl made]
    exact ⟨rfl, rfl⟩
  have accounts := run_accounts .standard toMemory mixedInputs _ ended.1
  exact ⟨ended.1, ended.2, accounts, accounts.errors toMemory_leavesNoErrors⟩

end SqlScaffold.Run
