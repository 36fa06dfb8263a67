import SqlScaffold.Proofs.Run.Completion
import SqlScaffold.Proofs.Run.Passing

/-!
Runs over declared values with the shipped templates. No value ends such a run by itself; only the
size of the indentation does.
-/

namespace SqlScaffold.Run

open Emit Scan Source

variable {generator : Generator}

theorem named_of_modelOf? {value : Value} {model : Model}
    (declared : modelOf? generator (.declaration value) = some model) :
    ∀ field ∈ model.fields, field.name ≠ "" := by
  intro field inside
  exact (named_of_scan (modelOf?_eq_some_iff.mp declared) field inside).1

variable (shipped : generator.library = .shipped)

include shipped in
theorem passes_declaration_iff (value : Value) :
    Passes generator (.declaration value) ↔
      modelOf? generator (.declaration value) = none ∨
        ∃ width, generator.settings.indentWidth = .ok width := by
  have unstopped (found : TypeHint.UnhashableValue) : ¬Input.Stops (.declaration value) found := by
    rintro ⟨declared, same, _⟩
    cases same
  rw [passes_iff shipped]
  cases declared : modelOf? generator (.declaration value) with
  | none => simp [unstopped]
  | some model =>
    have formable := Model.IsFormable.of_named (named_of_modelOf? declared)
    simp [unstopped, formable]

include shipped in
theorem generationDiagnostic?_declaration (value : Value)
    (passes : Passes generator (.declaration value)) :
    generationDiagnostic? generator (.declaration value) = none ↔
      modelOf? generator (.declaration value) = none ∨ generator.settings.Indentable := by
  cases declared : modelOf? generator (.declaration value) with
  | none => simp [generationDiagnostic?, declared]
  | some model =>
    obtain ⟨written, unwritten, failing⟩ :=
      Generator.units_shipped shipped (.of_named (named_of_modelOf? declared))
    simp only [reduceCtorEq, false_or]
    by_cases indentable : generator.settings.Indentable
    · obtain ⟨units, made⟩ := written indentable
      simp [generationDiagnostic?, declared, made, indentable]
    · rcases (passes_declaration_iff shipped value).mp passes with undeclared | ⟨width, counted⟩
      · simp [declared] at undeclared
      · obtain ⟨error, failed⟩ := failing width counted indentable
        simp [generationDiagnostic?, declared, failed, indentable]

include shipped in
/-- A run over declared values returns if none of them declares a model or the indentation counts,
and if its emitter answers. -/
theorem declarations_return_iff {σ : Type} {emitter : Emitter σ} (values : List Value)
    (state : σ) :
    (run generator emitter (values.map .declaration) state).value.failure = none ↔
      (scannedModels generator (values.map .declaration) = [] ∨
        ∃ width, generator.settings.indentWidth = .ok width) ∧
      ∀ call ∈ calls emitter state (generatedUnits generator (values.map .declaration)),
        (emitter call.1 call.2).Answered := by
  have passed : (∀ input ∈ values.map Input.declaration, Passes generator input) ↔
      scannedModels generator (values.map .declaration) = [] ∨
        ∃ width, generator.settings.indentWidth = .ok width := by
    simp only [List.forall_mem_map, passes_declaration_iff shipped, scannedModels,
      List.filterMap_eq_nil_iff]
    by_cases counted : ∃ width, generator.settings.indentWidth = .ok width
    · simp [counted]
    · simp [counted]
  rw [run_returns_iff, passed]

include shipped in
/-- Such a run reports no failed generation if, beyond that, the doubled indentation counts. -/
theorem generationDiagnostics_declarations_iff (values : List Value)
    (passed : ∀ value ∈ values, Passes generator (.declaration value)) :
    generationDiagnostics generator (values.map .declaration) = [] ↔
      scannedModels generator (values.map .declaration) = [] ∨ generator.settings.Indentable := by
  have each : (∀ value ∈ values, generationDiagnostic? generator (.declaration value) = none) ↔
      ∀ value ∈ values, modelOf? generator (.declaration value) = none ∨
        generator.settings.Indentable :=
    forall₂_congr fun value member =>
      generationDiagnostic?_declaration shipped value (passed value member)
  simp only [generationDiagnostics, scannedModels, List.filterMap_eq_nil_iff, List.forall_mem_map,
    each]
  by_cases indentable : generator.settings.Indentable
  · simp [indentable]
  · simp [indentable]

/-- A run over declared values into memory returns and reports nothing but rejected values and
refused units, exactly if none of the values declares a model or the indentation can be written,
also twice. -/
theorem run_declarations_iff {settings : Settings} {generator : Generator}
    (made : Generator.make settings .shipped = .ok generator) (values : List Value)
    (artifacts : Artifacts) :
    ((run generator toMemory (values.map .declaration) artifacts).value.failure = none ∧
      ∀ diagnostic ∈
        (run generator toMemory (values.map .declaration) artifacts).value.report.diagnostics,
        diagnostic.kind = "scan" ∨ diagnostic.kind = "emission") ↔
      scannedModels generator (values.map .declaration) = [] ∨ settings.Indentable := by
  obtain ⟨rfl, shipped⟩ := Generator.make_eq_ok made
  have passes : (∀ input ∈ values.map Input.declaration, Passes generator input) →
      ∀ value ∈ values, Passes generator (.declaration value) :=
    fun passed value member => passed _ (List.mem_map_of_mem member)
  constructor
  · rintro ⟨returned, kinds⟩
    obtain ⟨_, summary⟩ := run_summary returned
    exact (generationDiagnostics_declarations_iff shipped values (passes summary.passed)).mp
      (summary.generated_iff.mpr kinds)
  · intro condition
    have counted : scannedModels generator (values.map .declaration) = [] ∨
        ∃ width, generator.settings.indentWidth = .ok width :=
      condition.imp id fun indentable =>
        (generator.settings.indentable_iff.mp indentable).1
    have returned : (run generator toMemory (values.map .declaration) artifacts).value.failure =
        none :=
      (declarations_return_iff shipped values artifacts).mpr
        ⟨counted, fun call _ => toMemory_answered call.1 call.2⟩
    obtain ⟨_, summary⟩ := run_summary returned
    have generated := (generationDiagnostics_declarations_iff shipped values
      (passes summary.passed)).mpr condition
    exact ⟨returned, summary.generated_iff.mp generated⟩

/-- Any value and any model may stand in such a run with the default settings. -/
theorem run_declarations_standard :
    Generator.make {} .shipped = .ok .standard ∧
      (run .standard toMemory ([.null, .object [("name", .text "A")]].map .declaration)
        []).value.failure = none := by
  have made : Generator.make {} .shipped = .ok .standard := rfl
  exact ⟨made, ((run_declarations_iff made _ []).mpr (Or.inr (by decide))).1⟩

def uncountable : Settings := { indentSize := -0x8000000000000001 }

/-- Although no blank would be written, a model ends a run with that indentation. -/
theorem run_declarations_uncountable :
    Generator.make uncountable .shipped = .ok ⟨uncountable, ⟨[]⟩, .shipped⟩ ∧
      (run ⟨uncountable, ⟨[]⟩, .shipped⟩ toMemory
        ([.object [("name", .text "A")]].map .declaration) []).value.failure =
          some (.blanks .uncountable) := by
  exact ⟨rfl, by decide +kernel⟩

end SqlScaffold.Run
