import SqlScaffold.Proofs.Generator
import SqlScaffold.Proofs.Settings.Kinds
import SqlScaffold.Settings.Advice

/-!
Type overrides. Advice on settings names every override whose value is no storage type, in order,
and no generator can be made of such settings: making one stops at the first of these. Of all other
settings a generator can be made, and its mapping has the same keys.
-/

namespace SqlScaffold

open Text

theorem StorageType.ofName?_eq_some_iff {given : String} {storage : StorageType} :
    ofName? given = some storage ↔ storage.name = upper given := by
  constructor
  · intro found
    simpa using List.find?_some found
  · intro named
    rw [ofName?, ← named]
    cases storage <;> rfl

def NamesStorage (given : String) : Prop := ∃ storage : StorageType, storage.name = upper given

theorem StorageType.ofName?_eq_none_iff {given : String} :
    ofName? given = none ↔ ¬NamesStorage given := by
  simp only [Option.eq_none_iff_forall_ne_some, ne_eq, ofName?_eq_some_iff, NamesStorage,
    not_exists]

instance (given : String) : Decidable (NamesStorage given) :=
  decidable_of_iff ((StorageType.ofName? given).isSome) (by
    simp only [Option.isSome_iff_exists, StorageType.ofName?_eq_some_iff, NamesStorage])

def Resolves (given : String × String) (resolved : String × StorageType) : Prop :=
  resolved.1 = given.1 ∧ resolved.2.name = upper given.2

def unknownOverrides (given : List (String × String)) : List (String × String) :=
  given.filter fun entry => ¬NamesStorage entry.2

namespace TypeMapping

variable {given : List (String × String)}

theorem ofOverrides_eq_ok_iff {mapping : TypeMapping} :
    ofOverrides (given.map fun entry => (entry.1, .text entry.2)) = .ok mapping ↔
      List.Forall₂ Resolves given mapping.overrides := by
  induction given generalizing mapping with
  | nil =>
    obtain ⟨overrides⟩ := mapping
    simp [ofOverrides, eq_comm]
  | cons entry rest ih =>
    obtain ⟨declared, value⟩ := entry
    obtain ⟨overrides⟩ := mapping
    simp only [List.map_cons, ofOverrides, Value.shown, List.forall₂_cons_left_iff]
    cases found : StorageType.ofName? value with
    | none =>
      simp only [reduceCtorEq, false_iff, not_exists, not_and]
      rintro ⟨key, storage⟩ later ⟨_, named⟩
      exact absurd ⟨storage, named⟩ (StorageType.ofName?_eq_none_iff.mp found)
    | some storage =>
      have named := StorageType.ofName?_eq_some_iff.mp found
      simp only [Outcome.bind_eq_ok_iff]
      constructor
      · rintro ⟨later, made, listed⟩
        cases listed
        exact ⟨_, _, ⟨rfl, named⟩, ih.mp made, rfl⟩
      · rintro ⟨⟨key, other⟩, later, ⟨rfl, also⟩, resolved, rfl⟩
        cases found.symm.trans (StorageType.ofName?_eq_some_iff.mpr also)
        exact ⟨⟨later⟩, ih.mpr resolved, rfl⟩

theorem ofOverrides_eq_error_iff {error : UnknownStorage} :
    ofOverrides (given.map fun entry => (entry.1, .text entry.2)) = .error error ↔
      (unknownOverrides given).head? = some (error.declared, error.given) := by
  rw [unknownOverrides, List.head?_filter]
  induction given with
  | nil => simp [ofOverrides]
  | cons entry rest ih =>
    obtain ⟨declared, value⟩ := entry
    simp only [List.map_cons, ofOverrides, Value.shown]
    cases found : StorageType.ofName? value with
    | none =>
      have unnamed := StorageType.ofName?_eq_none_iff.mp found
      rw [List.find?_cons_of_pos (by simpa using unnamed)]
      obtain ⟨otherGiven, otherDeclared⟩ := error
      simp [and_comm]
    | some storage =>
      have named : NamesStorage value := ⟨storage, StorageType.ofName?_eq_some_iff.mp found⟩
      rw [List.find?_cons_of_neg (by simpa using named), ← ih]
      exact Outcome.bind_ok_eq_error_iff

theorem exists_ofOverrides (known : unknownOverrides given = []) :
    ∃ mapping, ofOverrides (given.map fun entry => (entry.1, .text entry.2)) = .ok mapping := by
  cases made : ofOverrides (given.map fun entry => (entry.1, .text entry.2)) with
  | ok mapping => exact ⟨mapping, rfl⟩
  | error error =>
    have first := ofOverrides_eq_error_iff.mp made
    rw [known] at first
    cases first

end TypeMapping

theorem lookup_of_resolves {given : List (String × String)} {resolved : List (String × StorageType)}
    (resolves : List.Forall₂ Resolves given resolved) (key : String) :
    (given.lookup key = none ∧ resolved.lookup key = none) ∨
      ∃ value storage, given.lookup key = some value ∧ resolved.lookup key = some storage ∧
        storage.name = upper value := by
  induction resolves with
  | nil => exact .inl ⟨rfl, rfl⟩
  | @cons entry own _ _ first _ ih =>
    obtain ⟨declared, value⟩ := entry
    obtain ⟨name, storage⟩ := own
    obtain ⟨rfl, named⟩ := first
    by_cases here : key = name
    · exact .inr ⟨value, storage, by simp [here], by simp [here], named⟩
    · simpa only [List.lookup_cons, beq_eq_false_iff_ne.mpr here] using ih

namespace Generator

variable {settings : Settings} {library : Template.Library}

theorem make_eq_ok_iff {generator : Generator} :
    make settings library = .ok generator ↔ generator.settings = settings ∧
      generator.library = library ∧
        List.Forall₂ Resolves settings.typeOverrides generator.mapping.overrides := by
  obtain ⟨own, mapping, ownLibrary⟩ := generator
  rw [make, Outcome.bind_eq_ok_iff, Settings.overrideEntries]
  simp only [TypeMapping.ofOverrides_eq_ok_iff, Except.ok.injEq, Generator.mk.injEq]
  constructor
  · rintro ⟨_, resolved, rfl, rfl, rfl⟩
    exact ⟨rfl, rfl, resolved⟩
  · rintro ⟨rfl, rfl, resolved⟩
    exact ⟨mapping, resolved, rfl, rfl, rfl⟩

theorem make_eq_error_iff {error : UnknownStorage} :
    make settings library = .error error ↔
      (unknownOverrides settings.typeOverrides).head? = some (error.declared, error.given) := by
  rw [← TypeMapping.ofOverrides_eq_error_iff]
  exact Outcome.bind_ok_eq_error_iff

end Generator

def Advice.isOverride : Advice → Bool
  | .override _ _ => true
  | _ => false

theorem Draft.overrideAdvice_draft (settings : Settings) :
    overrideAdvice settings.draft.typeOverrides =
      (unknownOverrides settings.typeOverrides).map fun entry => .override entry.2 entry.1 := by
  have unknown (given : String) :
      (StorageType.ofName? given).isNone = decide (¬NamesStorage given) := by
    rw [Bool.eq_iff_iff, decide_eq_true_iff, ← StorageType.ofName?_eq_none_iff,
      Option.isNone_iff_eq_none]
  simp only [Settings.draft, overrideAdvice, Settings.overrideEntries, List.filter_map,
    List.map_map, unknownOverrides, Function.comp_def, Value.shown, unknown]

/-- Of the advice on settings, that on overrides is about the unknown ones, once about each. -/
theorem Settings.overrides_advice (settings : Settings) :
    settings.draft.advice.filter Advice.isOverride =
      (unknownOverrides settings.typeOverrides).map fun entry => .override entry.2 entry.1 := by
  have suffixes : ([Setting.supportSuffix, .mapperSuffix, .resultMapSuffix].flatMap
      settings.draft.suffixAdvice).filter Advice.isOverride = [] := by
    refine List.filter_eq_nil_iff.mpr fun advice inside => ?_
    obtain ⟨setting, _, given⟩ := List.mem_flatMap.mp inside
    unfold Draft.suffixAdvice at given
    split at given
    · cases given
    · simp [List.mem_singleton.mp given, Advice.isOverride]
  have single (silent : Prop) [Decidable silent] {advice : Advice}
      (other : advice.isOverride = false) :
      (if silent then [] else [advice]).filter Advice.isOverride = [] := by
    split <;> simp [other]
  have all : ((unknownOverrides settings.typeOverrides).map fun entry =>
      Advice.override entry.2 entry.1).filter Advice.isOverride = _ :=
    List.filter_eq_self.mpr (List.forall_mem_map.mpr fun _ _ => rfl)
  rw [Draft.advice, Draft.overrideAdvice_draft, List.filter_append, List.filter_append,
    List.filter_append, suffixes, single _ rfl, single _ rfl, all]
  rfl

structure ForeseesMaking (draft : Draft) (settings : Settings) (library : Template.Library) :
    Prop where
  advised : (draft.advice.filter Advice.isOverride).map Advice.message =
    (unknownOverrides settings.typeOverrides).map fun entry =>
      "Unknown logical type '" ++ entry.2 ++ "' for override " ++ entry.1
  refused : (∃ error, Generator.make settings library = .error error) ↔
    ∃ advice ∈ draft.advice, advice.isOverride
  first : ∀ error, Generator.make settings library = .error error →
    ∃ entry others, unknownOverrides settings.typeOverrides = entry :: others ∧
      error.message = "Unknown logical type '" ++ entry.2 ++ "' for " ++ entry.1
  made : (∀ advice ∈ draft.advice, ¬advice.isOverride) → ∃ mapping,
    Generator.make settings library = .ok ⟨settings, mapping, library⟩ ∧
      List.Forall₂ Resolves settings.typeOverrides mapping.overrides

/-- Whatever settings a draft holds, advice on it and the making of a generator agree. -/
theorem advice_foreseesMaking (library : Template.Library) {draft : Draft} {settings : Settings}
    (checked : draft.check = .ok settings) : ForeseesMaking draft settings library := by
  obtain rfl := Draft.check_eq_ok_iff.mp checked
  have overrides := settings.overrides_advice
  have unadvised : (∀ advice ∈ settings.draft.advice, ¬advice.isOverride) ↔
      unknownOverrides settings.typeOverrides = [] := by
    rw [← List.filter_eq_nil_iff, overrides, List.map_eq_nil_iff]
  exact {
    advised := by
      rw [overrides, List.map_map]
      rfl
    refused := by
      simp only [Generator.make_eq_error_iff]
      constructor
      · rintro ⟨error, failed⟩
        by_contra silent
        push Not at silent
        rw [unadvised.mp silent] at failed
        cases failed
      · rintro ⟨advice, given, override⟩
        have unknown : unknownOverrides settings.typeOverrides ≠ [] :=
          fun known => unadvised.mpr known advice given override
        obtain ⟨entry, others, listed⟩ := List.exists_cons_of_ne_nil unknown
        exact ⟨⟨entry.2, entry.1⟩, by rw [listed]; rfl⟩
    first := by
      intro error failed
      obtain ⟨others, listed⟩ := List.head?_eq_some_iff.mp (Generator.make_eq_error_iff.mp failed)
      exact ⟨_, others, listed, rfl⟩
    made := by
      intro silent
      obtain ⟨mapping, resolved⟩ := TypeMapping.exists_ofOverrides (unadvised.mp silent)
      exact ⟨mapping, Generator.make_eq_ok_iff.mpr
        ⟨rfl, rfl, TypeMapping.ofOverrides_eq_ok_iff.mp resolved⟩,
        TypeMapping.ofOverrides_eq_ok_iff.mp resolved⟩ }

def overridingDraft : Draft :=
  { typeOverrides := .object [("Amount", .text "decimal"), ("Price", .text "money"),
      ("Count", .text "b\u0131gint"), ("Rate", .text "")] }

def overridingSettings : Settings :=
  { typeOverrides :=
      [("Amount", "decimal"), ("Price", "money"), ("Count", "b\u0131gint"), ("Rate", "")] }

theorem advice_foreseesMaking_money :
    overridingDraft.check = .ok overridingSettings ∧
      ForeseesMaking overridingDraft overridingSettings .shipped ∧
      Generator.make overridingSettings .shipped = .error ⟨"money", "Price"⟩ := by
  have checked : overridingDraft.check = .ok overridingSettings := rfl
  have unknown : unknownOverrides overridingSettings.typeOverrides =
      [("Price", "money"), ("Rate", "")] := by
    decide +kernel
  refine ⟨checked, advice_foreseesMaking .shipped checked, ?_⟩
  rw [Generator.make_eq_error_iff, unknown]
  rfl

end SqlScaffold
