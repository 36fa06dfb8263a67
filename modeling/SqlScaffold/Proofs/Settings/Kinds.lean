import SqlScaffold.Proofs.Outcome
import SqlScaffold.Settings.Check

/-!
Kinds of settings. A draft becomes settings exactly if it holds a value of the right kind under
every setting, and the settings hold what the draft held.
-/

namespace SqlScaffold

def Setting.Takes (setting : Setting) (value : Value) : Prop :=
  match setting with
  | .indentSize => ∃ number, value = .int number
  | .addComments => ∃ flag, value = .bool flag
  | .supportSuffix | .mapperSuffix | .resultMapSuffix => ∃ content, value = .text content
  | .outputDirectory | .packageName => value = .null ∨ ∃ content, value = .text content
  | .typeOverrides => ∃ entries, value = .object entries ∧
      ∀ entry ∈ entries, ∃ content, entry.2 = .text content
  | .custom => ∃ entries, value = .object entries

theorem Setting.takes_default (setting : Setting) : setting.Takes (Draft.get {} setting) := by
  cases setting <;> simp [Takes, Draft.get]

theorem Setting.ofKey?_eq_some_iff {key : String} {setting : Setting} :
    ofKey? key = some setting ↔ setting.key = key := by
  constructor
  · intro found
    simpa using List.find?_some found
  · rintro rfl
    exact ofKey?_key setting

namespace Draft

theorem wholeNumber_eq_ok_iff {value : Value} {number : Int} :
    wholeNumber value = .ok number ↔ value = .int number := by
  cases value <;> simp [wholeNumber]

theorem truth_eq_ok_iff {value : Value} {flag : Bool} : truth value = .ok flag ↔ value = .bool flag := by
  cases value <;> simp [truth]

theorem textOf_eq_ok_iff {draft : Draft} {setting : Setting} {content : String} :
    draft.textOf setting = .ok content ↔ draft.get setting = .text content := by
  unfold textOf
  cases draft.get setting <;> simp

theorem optionalTextOf_eq_ok_iff {draft : Draft} {setting : Setting} {content : Option String} :
    draft.optionalTextOf setting = .ok content ↔ draft.get setting = content.elim .null .text := by
  unfold optionalTextOf
  cases draft.get setting <;> cases content <;> simp

theorem objectOf_eq_ok_iff {error : ConfigError} {value : Value} {entries : Entries} :
    objectOf error value = .ok entries ↔ value = .object entries := by
  cases value <;> simp [objectOf]

theorem overridesOf_eq_ok_iff {entries : Entries} {overrides : List (String × String)} :
    overridesOf entries = .ok overrides ↔
      entries = overrides.map fun entry => (entry.1, .text entry.2) := by
  induction entries generalizing overrides with
  | nil => cases overrides <;> simp [overridesOf]
  | cons entry rest ih =>
    obtain ⟨key, value⟩ := entry
    cases value with
    | text content =>
      simp only [overridesOf, Outcome.map_eq_ok_iff, ih]
      cases overrides with
      | nil => simp
      | cons first later =>
        obtain ⟨name, given⟩ := first
        simp only [List.cons.injEq, Prod.mk.injEq, List.map_cons, Value.text.injEq]
        grind
    | _ => cases overrides <;> simp [overridesOf]

/-- The settings that come of a draft are those that the draft holds. -/
theorem check_eq_ok_iff {draft : Draft} {settings : Settings} :
    draft.check = .ok settings ↔ settings.draft = draft := by
  obtain ⟨output, package, size, comments, support, mapper, resultMap, overrides, custom⟩ := draft
  simp only [check, Outcome.bind_eq_ok_iff, wholeNumber_eq_ok_iff, truth_eq_ok_iff,
    textOf_eq_ok_iff, optionalTextOf_eq_ok_iff, objectOf_eq_ok_iff, overridesOf_eq_ok_iff, get,
    Settings.draft, Settings.overrideEntries, Except.ok.injEq, Draft.mk.injEq]
  constructor
  · rintro ⟨_, rfl, _, rfl, _, rfl, _, rfl, _, rfl, _, rfl, _, rfl, _, rfl, _, rfl, _, rfl, rfl⟩
    simp
  · rintro ⟨rfl, rfl, rfl, rfl, rfl, rfl, rfl, rfl, rfl⟩
    exact ⟨_, rfl, _, rfl, _, rfl, _, rfl, _, rfl, _, rfl, _, rfl, _, rfl, _, rfl, _, rfl, rfl⟩

theorem exists_optional_iff {value : Value} :
    (∃ content : Option String, content.elim .null .text = value) ↔
      value = .null ∨ ∃ content, value = .text content := by
  simp [Option.exists, eq_comm]

theorem exists_overrides_iff {entries : Entries} :
    (∃ overrides : List (String × String),
        overrides.map (fun entry => (entry.1, Value.text entry.2)) = entries) ↔
      ∀ entry ∈ entries, ∃ content, entry.2 = .text content := by
  induction entries with
  | nil => simp
  | cons entry rest ih =>
    rw [List.forall_mem_cons, ← ih]
    constructor
    · rintro ⟨overrides, listed⟩
      obtain ⟨first, later, rfl, rfl, tail⟩ := List.map_eq_cons_iff.mp listed
      exact ⟨⟨first.2, rfl⟩, later, tail⟩
    · rintro ⟨⟨content, text⟩, later, tail⟩
      exact ⟨(entry.1, content) :: later, by rw [List.map_cons, tail, ← text]⟩

theorem exists_check_iff {draft : Draft} :
    (∃ settings, draft.check = .ok settings) ↔
      ∀ setting : Setting, setting.Takes (draft.get setting) := by
  simp only [check_eq_ok_iff]
  constructor
  · rintro ⟨settings, rfl⟩ setting
    cases setting with
    | outputDirectory | packageName => exact exists_optional_iff.mp ⟨_, rfl⟩
    | typeOverrides => exact ⟨_, rfl, exists_overrides_iff.mp ⟨_, rfl⟩⟩
    | _ => exact ⟨_, rfl⟩
  · intro taken
    obtain ⟨output, package, size, comments, support, mapper, resultMap, overrides, custom⟩ := draft
    obtain ⟨outputDirectory, rfl⟩ := exists_optional_iff.mpr (taken .outputDirectory)
    obtain ⟨packageName, rfl⟩ := exists_optional_iff.mpr (taken .packageName)
    obtain ⟨indentSize, rfl⟩ := taken .indentSize
    obtain ⟨addComments, rfl⟩ := taken .addComments
    obtain ⟨supportSuffix, rfl⟩ := taken .supportSuffix
    obtain ⟨mapperSuffix, rfl⟩ := taken .mapperSuffix
    obtain ⟨resultMapSuffix, rfl⟩ := taken .resultMapSuffix
    obtain ⟨entries, rfl, texts⟩ := taken .typeOverrides
    obtain ⟨typeOverrides, rfl⟩ := exists_overrides_iff.mpr texts
    obtain ⟨custom, rfl⟩ := taken .custom
    exact ⟨⟨outputDirectory, packageName, indentSize, addComments, supportSuffix, mapperSuffix,
      resultMapSuffix, typeOverrides, custom⟩, rfl⟩

end Draft

end SqlScaffold
