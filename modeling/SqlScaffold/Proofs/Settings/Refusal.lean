import SqlScaffold.Proofs.Settings.Layers

/-!
Settings that are refused. Given settings are refused exactly if a known key has a value of the wrong
kind, with one exception: beside a key that is not known, custom settings that count as false are
passed over.
-/

namespace SqlScaffold

section Layers

variable {file overrides : Entries} (fileDistinct : file.AreDistinct)
  (overridesDistinct : overrides.AreDistinct)

include fileDistinct overridesDistinct

theorem exists_ofMerged_iff :
    (∃ draft, Draft.ofMerged (layered file overrides) = .ok draft ∧
        ∀ setting : Setting, setting.Takes (draft.get setting)) ↔
      (∀ setting : Setting, setting ≠ .custom → setting.Takes (latest file overrides setting)) ∧
        Setting.custom.Takes (customBase file overrides) := by
  have known := get_ofKnown_layered fileDistinct overridesDistinct
  have nothing : unknownEntries (layered file overrides) = [] ↔ _ :=
    unknownEntries_layered_eq_nil_iff fileDistinct
  rw [ofMerged_eq]
  unfold customBase
  by_cases empty : unknownEntries (layered file overrides) = []
  · rw [if_pos empty, if_pos (nothing.mp empty)]
    simp only [Except.ok.injEq, exists_eq_left', known]
    constructor
    · exact fun taken => ⟨fun setting _ => taken setting, taken .custom⟩
    · rintro ⟨taken, custom⟩ setting
      by_cases same : setting = .custom
      · exact same ▸ custom
      · exact taken setting same
  · have custom : (Draft.ofKnown (layered file overrides)).custom = latest file overrides .custom :=
      known .custom
    rw [if_neg empty, if_neg (mt nothing.mpr empty)]
    simp only [Outcome.map_eq_ok_iff, Draft.objectOf_eq_ok_iff, custom]
    constructor
    · rintro ⟨_, ⟨base, start, rfl⟩, taken⟩
      refine ⟨fun setting other => ?_, base, start⟩
      have held := taken setting
      rw [← known]
      cases setting <;> first | exact held | exact absurd rfl other
    · rintro ⟨taken, base, start⟩
      refine ⟨_, ⟨base, start, rfl⟩, fun setting => ?_⟩
      by_cases same : setting = .custom
      · exact same ▸ ⟨_, rfl⟩
      · have held := taken setting same
        rw [← known] at held
        cases setting <;> first | exact held | exact absurd rfl same

theorem exists_ofLayers_iff :
    (∃ settings, Settings.ofLayers [file, overrides] = .ok settings) ↔
      (∀ setting : Setting, setting ≠ .custom → setting.Takes (latest file overrides setting)) ∧
        Setting.custom.Takes (customBase file overrides) := by
  rw [← exists_ofMerged_iff fileDistinct overridesDistinct]
  simp only [Settings.ofLayers, Outcome.mapError_eq_ok_iff, Outcome.bind_eq_ok_iff]
  rw [exists_comm]
  exact exists_congr fun draft => by
    rw [exists_and_left, Draft.exists_check_iff]
    rfl

end Layers

theorem config_of_ofLayers {layers : List Entries}
    (failed : ¬∃ settings, Settings.ofLayers layers = .ok settings) :
    ∃ error, Settings.ofLayers layers = .error (.config error) := by
  unfold Settings.ofLayers at failed ⊢
  cases made : Draft.ofLayers layers >>= Draft.check with
  | ok settings => exact absurd ⟨settings, by rw [made]; rfl⟩ failed
  | error error => exact ⟨error, rfl⟩

/-- Beside a key that is not known, a value of custom settings that counts as false is passed over,
whatever its kind. -/
def IsPassedOver (given : Entries) (setting : Setting) (value : Value) : Prop :=
  setting = .custom ∧ value.isTruthy = false ∧ unknownEntries given ≠ []

def IsMistyped (given : Entries) : Prop :=
  ∃ (setting : Setting) (value : Value), given.get? setting.key = some value ∧
    ¬setting.Takes value ∧ ¬IsPassedOver given setting value

theorem takes_latest_iff {given : Entries} {setting : Setting} :
    setting.Takes (latest [] given setting) ↔
      ∀ value, given.get? setting.key = some value → setting.Takes value := by
  unfold latest
  cases found : given.get? setting.key with
  | none => simpa [Entries.get?] using setting.takes_default
  | some value => simp

theorem takes_customBase_iff {given : Entries} :
    Setting.custom.Takes (customBase [] given) ↔
      ∀ value, given.get? Setting.custom.key = some value → Setting.custom.Takes value ∨
        IsPassedOver given .custom value := by
  unfold customBase
  by_cases empty : unknownEntries given = []
  · rw [if_pos ⟨rfl, empty⟩, takes_latest_iff]
    simp [IsPassedOver, empty]
  · rw [if_neg fun both => empty both.2]
    cases found : given.get? Setting.custom.key with
    | none =>
      have start : latest [] given .custom = .object [] := by
        rw [latest, found]
        rfl
      simp [start, truthyOrEmpty, Setting.Takes]
    | some value =>
      by_cases truthy : value.isTruthy
      · simp [latest, found, truthyOrEmpty, truthy, IsPassedOver]
      · simp [latest, found, truthyOrEmpty, truthy, IsPassedOver, empty, Setting.Takes]

theorem isMistyped_iff {given : Entries} :
    IsMistyped given ↔
      ¬((∀ setting : Setting, setting ≠ .custom → setting.Takes (latest [] given setting)) ∧
        Setting.custom.Takes (customBase [] given)) := by
  simp only [takes_latest_iff, takes_customBase_iff, IsMistyped]
  constructor
  · rintro ⟨setting, value, found, wrong, kept⟩ ⟨taken, custom⟩
    by_cases same : setting = .custom
    · subst same
      exact (custom value found).elim wrong kept
    · exact wrong (taken setting same value found)
  · intro refused
    by_contra typed
    push Not at typed
    refine refused ⟨fun setting other value found => ?_, fun value found => ?_⟩
    · by_contra wrong
      exact other (typed setting value found wrong).1
    · exact or_iff_not_imp_left.mpr (typed .custom value found)

/-- Given settings are refused exactly if they are mistyped, and else they are settings. -/
theorem load_refused_iff (tree : Files.FileTree) {given : Entries} (distinct : given.AreDistinct) :
    ((∃ error, Settings.load tree (.object given) none = .error (.config error)) ↔
        IsMistyped given) ∧
      ((∃ settings, Settings.load tree (.object given) none = .ok settings) ↔
        ¬IsMistyped given) := by
  have returns := exists_ofLayers_iff Entries.distinct_nil distinct
  rw [load_object, isMistyped_iff, not_not, ← returns]
  refine ⟨⟨?refused, config_of_ofLayers⟩, Iff.rfl⟩
  rintro ⟨error, failed⟩ ⟨settings, made⟩
  rw [failed] at made
  cases made

def mistypedSettings : Entries := [("custom", .list []), ("x", .int 1), ("indent_size", .bool true)]

theorem isMistyped_mistypedSettings : IsMistyped mistypedSettings :=
  ⟨.indentSize, .bool true, rfl, by simp [Setting.Takes], by simp [IsPassedOver]⟩

theorem load_refused_iff_truth :
    mistypedSettings.AreDistinct ∧ IsMistyped mistypedSettings ∧
      ∃ error, Settings.load ⟨[], []⟩ (.object mistypedSettings) none = .error (.config error) := by
  have distinct : mistypedSettings.AreDistinct := by decide
  exact ⟨distinct, isMistyped_mistypedSettings,
    (load_refused_iff ⟨[], []⟩ distinct).1.mpr isMistyped_mistypedSettings⟩

def nullSettings : Entries := [("custom", .null), ("x", .int 1)]

/-- They are of the wrong kind, and still there are settings. -/
theorem load_nullSettings :
    nullSettings.AreDistinct ∧ nullSettings.get? Setting.custom.key = some .null ∧
      ¬Setting.custom.Takes .null ∧
      Settings.load ⟨[], []⟩ (.object nullSettings) none = .ok { custom := [("x", .int 1)] } := by
  refine ⟨by decide, rfl, by simp [Setting.Takes], ?_⟩
  rw [load_object]
  rfl

end SqlScaffold
