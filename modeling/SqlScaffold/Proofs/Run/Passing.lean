import SqlScaffold.Proofs.Run.Summary
import SqlScaffold.Proofs.Generator
import SqlScaffold.Proofs.Scan.Annotation

/-!
The inputs that pass. With the shipped templates, an input ends a run by itself exactly if its scan
meets a value that cannot be looked up, or if it declares a model and the indentation does not count
or the mapper cannot be formed.
-/

namespace SqlScaffold.Run

open Scan Source

variable {generator : Generator}

theorem modelOf?_eq_some_iff {input : Input} {model : Model} :
    modelOf? generator input = some model ↔
      (input.scan generator.settings.packageName).value = .ok model := by
  unfold modelOf?
  cases (input.scan generator.settings.packageName).value with
  | ok other => simp [Except.toOption]
  | error failure => simp [Except.toOption]

/-- An input that declares no model passes unless its scan meets a value that cannot be looked
up. -/
theorem passes_undeclared_iff {input : Input} (undeclared : modelOf? generator input = none) :
    Passes generator input ↔ ∀ value, ¬input.Stops value := by
  constructor
  · rintro (rejected | ⟨scanned, _⟩ | ⟨scanned, _⟩) value stops
    · have failed := (value_scan_unhashable_iff generator.settings.packageName).mpr stops
      rw [rejected] at failed
      cases failed
    · simp [modelOf?_eq_some_iff.mpr scanned] at undeclared
    · simp [modelOf?_eq_some_iff.mpr scanned] at undeclared
  · intro unstopped
    cases scanned : (input.scan generator.settings.packageName).value with
    | ok model => simp [modelOf?_eq_some_iff.mpr scanned] at undeclared
    | error failure =>
      cases failure with
      | rejected error => exact .rejected scanned
      | unhashable value =>
        exact absurd ((value_scan_unhashable_iff _).mp scanned) (unstopped value)

theorem unstopped_of_declared {input : Input} {model : Model}
    (declared : modelOf? generator input = some model) (value : TypeHint.UnhashableValue) :
    ¬input.Stops value := by
  intro stops
  have failed := (value_scan_unhashable_iff generator.settings.packageName).mpr stops
  rw [modelOf?_eq_some_iff.mp declared] at failed
  cases failed

theorem passes_of_declared_iff {input : Input} {model : Model}
    (declared : modelOf? generator input = some model) :
    Passes generator input ↔ (∃ units, generator.units model = .ok units) ∨
      ∃ error, generator.units model = .error (.template error) := by
  have scanned := modelOf?_eq_some_iff.mp declared
  constructor
  · rintro (rejected | ⟨same, failed⟩ | ⟨same, made⟩)
    · simp [scanned] at rejected
    · cases same.symm.trans scanned
      exact .inr ⟨_, failed⟩
    · cases same.symm.trans scanned
      exact .inl ⟨_, made⟩
  · rintro (⟨units, made⟩ | ⟨error, failed⟩)
    · exact .generated scanned made
    · exact .ungenerated scanned failed

variable (shipped : generator.library = .shipped)

include shipped in
/-- A model is generated or refused by a template exactly if the indentation counts and its mapper
can be formed; any other failure ends a run. -/
theorem units_answered_iff (model : Model) :
    ((∃ units, generator.units model = .ok units) ∨
      ∃ error, generator.units model = .error (.template error)) ↔
      (∃ width, generator.settings.indentWidth = .ok width) ∧ model.IsFormable := by
  -- The indentation is counted first, so its failure hides one of the mapper.
  cases counted : generator.settings.indentWidth with
  | error error =>
    have failed : generator.units model = .error (.blanks error) := by
      simp [Generator.units, counted, bind, Except.bind]
    simp [failed]
  | ok width =>
    by_cases formable : model.IsFormable
    · obtain ⟨written, _, failing⟩ := Generator.units_shipped shipped formable
      by_cases indentable : generator.settings.Indentable
      · simp [written indentable, formable]
      · simp [failing width counted indentable, formable]
    · simp [Generator.units_unformable counted formable, formable]

include shipped in
theorem passes_iff (input : Input) :
    Passes generator input ↔ (∀ value, ¬input.Stops value) ∧
      ∀ model, modelOf? generator input = some model →
        (∃ width, generator.settings.indentWidth = .ok width) ∧ model.IsFormable := by
  cases declared : modelOf? generator input with
  | none => simp [passes_undeclared_iff declared]
  | some model =>
    rw [passes_of_declared_iff declared, units_answered_iff shipped]
    simp [unstopped_of_declared declared]

end SqlScaffold.Run
