import SqlScaffold.Proofs.Scan.Format

/-!
What the scan of a declaration answers: a model whose fields all have names and types, or a
rejection.
-/

namespace SqlScaffold.Scan

theorem mem_persistedFields {members : List Value} {field : Field}
    (inside : field ∈ persistedFields members) :
    ∃ member ∈ members, fieldOf? member = some field := by
  obtain ⟨member, kept, found⟩ := List.mem_filterMap.mp inside
  exact ⟨member, (List.mem_filter.mp kept).1, found⟩

theorem value_scan_iff {value : Value} {defaultPackage : Option String} {model : Model} :
    (Input.scan (.declaration value) defaultPackage).value = .ok model ↔
      ∃ entries, value = .object entries ∧ IsDeclaration entries ∧
        Declares entries defaultPackage model := by
  cases value with
  | object entries =>
    simp only [Input.scan, Logged.map, Outcome.mapError_eq_ok_iff, value_scanDeclaration_iff,
      Value.object.injEq, exists_eq_left']
  | _ => simp [Input.scan, Logged.silent]

theorem named_of_scan {value : Value} {defaultPackage : Option String} {model : Model}
    (scanned : (Input.scan (.declaration value) defaultPackage).value = .ok model) :
    ∀ field ∈ model.fields, field.name ≠ "" ∧ field.typeName ≠ "" := by
  obtain ⟨entries, _, formed, declared⟩ := value_scan_iff.mp scanned
  obtain ⟨members, listed, all, _⟩ := formed.members
  have fields : persistedFields members = model.fields := by simpa [listed] using declared.fields
  intro field inside
  obtain ⟨member, present, found⟩ := mem_persistedFields (fields ▸ inside)
  obtain ⟨own, same, named, typed⟩ := all member present
  cases found.symm.trans same
  exact ⟨named, typed⟩

theorem rejected_of_scan {value : Value} {defaultPackage : Option String} {failure : ScanFailure}
    (failed : (Input.scan (.declaration value) defaultPackage).value = .error failure) :
    ∃ error, failure = .rejected error := by
  cases value with
  | object entries =>
    obtain ⟨error, _, rfl⟩ := Outcome.mapError_eq_error_iff.mp failed
    exact ⟨error, rfl⟩
  | _ =>
    cases failed
    exact ⟨_, rfl⟩

theorem IsDeclaration.exists_declares {entries : Entries} (formed : IsDeclaration entries)
    (defaultPackage : Option String) : ∃ model, Declares entries defaultPackage model := by
  obtain ⟨name, named, letter⟩ := formed.name
  obtain ⟨members, listed, _, distinct⟩ := formed.members
  have given : Text.trim name ≠ "" := by simpa [Text.trim_eq_empty_iff] using letter
  exact ⟨⟨firstGiven [textUnder? entries "package", defaultPackage] "", Text.trim name,
    persistedFields members, some ((textUnder? entries "table").getD ""), given, distinct⟩,
    by simp [named], rfl, rfl, by simp [listed]⟩

/-- A value is scanned exactly if it is an object of the form of a declaration, and the model is
the one that it declares. All others are rejected. -/
theorem scan_declaration_iff (value : Value) (defaultPackage : Option String) :
    ((∃ model, (Input.scan (.declaration value) defaultPackage).value = .ok model) ∨
      ∃ error, (Input.scan (.declaration value) defaultPackage).value =
        .error (.rejected error)) ∧
    ((∃ model, (Input.scan (.declaration value) defaultPackage).value = .ok model) ↔
      ∃ entries, value = .object entries ∧ IsDeclaration entries) ∧
    ∀ model, (Input.scan (.declaration value) defaultPackage).value = .ok model ↔
      ∃ entries, value = .object entries ∧ IsDeclaration entries ∧
        Declares entries defaultPackage model := by
  refine ⟨?answered, ?accepted, fun model => value_scan_iff⟩
  case answered =>
    cases scanned : (Input.scan (.declaration value) defaultPackage).value with
    | ok model => exact .inl ⟨model, rfl⟩
    | error failure =>
      obtain ⟨error, rfl⟩ := rejected_of_scan scanned
      exact .inr ⟨error, rfl⟩
  case accepted =>
    simp only [value_scan_iff]
    constructor
    · rintro ⟨model, entries, object, formed, _⟩
      exact ⟨entries, object, formed⟩
    · rintro ⟨entries, object, formed⟩
      obtain ⟨model, declared⟩ := formed.exists_declares defaultPackage
      exact ⟨model, entries, object, formed, declared⟩

end SqlScaffold.Scan
