import SqlScaffold.Proofs.Run.Completion
import SqlScaffold.Proofs.Run.Passing

/-!
Runs over models and classes. Neither has to come from a scanner that checks names or annotations,
so a run into memory may end at one. Where it returns, its report says of every input what became
of it.
-/

namespace SqlScaffold.Run

open Emit Scan Source

variable {σ : Type} {generator : Generator} {emitter : Emitter σ}

/-- A report says what became of an input: it is rejected with a diagnostic, or its model is, or
each of its units is stored or has a diagnostic. -/
inductive Records (generator : Generator) (report : Report) (index : Nat) (input : Input) : Prop
  | rejected {error} :
      (input.scan generator.settings.packageName).value = .error (.rejected error) →
      ⟨"scan", input.describe index, error.message⟩ ∈ report.diagnostics →
      Records generator report index input
  | ungenerated {model error} :
      (input.scan generator.settings.packageName).value = .ok model →
      generator.units model = .error (.template error) →
      ⟨"generation", model.qualifiedName, error.message⟩ ∈ report.diagnostics →
      Records generator report index input
  | generated {model units} :
      (input.scan generator.settings.packageName).value = .ok model →
      generator.units model = .ok units →
      (∀ unit ∈ units, unit ∈ report.units ∨ ∃ error : EmissionError,
        ⟨"emission", unit.qualifiedName, error.message⟩ ∈ report.diagnostics) →
      Records generator report index input

theorem mem_scanDiagnostics {inputs : List Input} {start index : Nat} {input : Input}
    {diagnostic : Diagnostic} (placed : inputs[index]? = some input)
    (noted : scanDiagnostic? generator (start + index) input = some diagnostic) :
    diagnostic ∈ scanDiagnostics generator start inputs := by
  induction inputs generalizing start index with
  | nil => simp at placed
  | cons first rest ih =>
    rw [scanDiagnostics, List.mem_append]
    cases index with
    | zero =>
      cases placed
      exact .inl (by simpa using noted)
    | succ index =>
      refine .inr (ih placed ?_)
      rw [Nat.add_right_comm]
      exact noted

theorem stored_or_refused {deliveries : List Delivery} {unit : SourceUnit}
    (delivered : unit ∈ deliveries.map Delivery.unit) :
    unit ∈ storedUnits deliveries ∨ ∃ error : EmissionError,
      ⟨"emission", unit.qualifiedName, error.message⟩ ∈ refusals deliveries := by
  obtain ⟨⟨unit, refusal⟩, inside, rfl⟩ := List.mem_map.mp delivered
  cases refusal with
  | none => exact .inl (List.mem_filterMap.mpr ⟨_, inside, rfl⟩)
  | some error => exact .inr ⟨error, List.mem_filterMap.mpr ⟨_, inside, rfl⟩⟩

theorem records_of_summary {inputs : List Input} {state final : σ} {deliveries : List Delivery}
    {report : Report}
    (summary : Summary generator emitter 0 inputs state deliveries report final) {index : Nat}
    {input : Input} (placed : inputs[index]? = some input) :
    Records generator report index input := by
  have present (kind : String) {diagnostic : Diagnostic}
      (listed : diagnostic ∈ report.ofKind kind) : diagnostic ∈ report.diagnostics :=
    (List.mem_filter.mp listed).1
  have inside : input ∈ inputs := List.mem_of_getElem? placed
  cases summary.passed input inside with
  | rejected scanned =>
    refine .rejected scanned (present "scan" ?_)
    rw [summary.scans]
    exact mem_scanDiagnostics placed (by simp [scanDiagnostic?, scanned])
  | ungenerated scanned failed =>
    refine .ungenerated scanned failed (present "generation" ?_)
    rw [summary.generations]
    exact List.mem_filterMap.mpr ⟨input, inside, by
      simp [generationDiagnostic?, modelOf?, scanned, failed, Except.toOption]⟩
  | generated scanned made =>
    refine .generated scanned made fun unit member => ?_
    have delivered : unit ∈ deliveries.map Delivery.unit := by
      rw [summary.generated]
      exact List.mem_flatMap.mpr ⟨input, inside, unitsOf_scanned scanned made ▸ member⟩
    rw [summary.units]
    exact (stored_or_refused delivered).imp_right <|
      Exists.imp fun error listed => present "emission" (summary.emissions ▸ listed)

end SqlScaffold.Run
