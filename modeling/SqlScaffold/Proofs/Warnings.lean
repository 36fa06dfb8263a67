import SqlScaffold.Proofs.Columns
import SqlScaffold.Proofs.Keyed
import SqlScaffold.Proofs.Settings.Overrides
import SqlScaffold.Proofs.Source.Identifier

/-!
Warnings about models. A field is reported as unmapped exactly if its storage type comes neither
from an override nor from a rule, and both units store it as text. Names are reported unless each of
them has the form of an identifier, but for one line feed at its end.
-/

namespace SqlScaffold

open Source

namespace Warning

def isUnmapped : Warning → Bool
  | unmapped _ _ _ => true
  | _ => false

def isNaming : Warning → Bool
  | name _ | fieldName _ _ _ | collision _ _ _ => true
  | _ => false

end Warning

/-! The parts of the warnings, in their order -/

namespace Generator

def namingWarnings (model : Model) : List Warning :=
  (nameProblems model.name).map Warning.name ++ (packageProblems model.package).map Warning.name ++
    model.fields.flatMap (fieldWarnings model)

variable {model : Model}

theorem warnings_eq (generator : Generator) (model : Model) :
    generator.warnings model = fieldCountWarnings model ++ keyWarnings model ++
      unmappedWarnings generator.settings model ++ namingWarnings model := by
  simp only [warnings, namingWarnings, List.append_assoc]

theorem isNaming_of_mem : ∀ warning ∈ namingWarnings model, warning.isNaming := by
  intro warning inside
  rcases List.mem_append.mp inside with problem | field
  · rw [← List.map_append] at problem
    obtain ⟨_, _, rfl⟩ := List.mem_map.mp problem
    rfl
  · obtain ⟨field, _, own⟩ := List.mem_flatMap.mp field
    rcases List.mem_append.mp own with problem | collision
    · obtain ⟨_, _, rfl⟩ := List.mem_map.mp problem
      rfl
    · split at collision
      · rw [List.mem_singleton.mp collision]
        rfl
      · cases collision

theorem isUnmapped_of_mem {settings : Settings} :
    ∀ warning ∈ unmappedWarnings settings model, warning.isUnmapped :=
  List.forall_mem_map.mpr fun _ _ => rfl

theorem other_of_mem : ∀ warning ∈ fieldCountWarnings model ++ keyWarnings model,
    ¬warning.isUnmapped ∧ ¬warning.isNaming := by
  intro warning inside
  rcases List.mem_append.mp inside with count | key
  · unfold fieldCountWarnings at count
    split at count
    · simp [List.mem_singleton.mp count, Warning.isUnmapped, Warning.isNaming]
    · cases count
  · unfold keyWarnings at key
    cases found : model.identity? with
    | none => simp [found] at key
    | some field =>
      simp only [found] at key
      split at key
      · cases key
      · simp [List.mem_singleton.mp key, Warning.isUnmapped, Warning.isNaming]

theorem not_isUnmapped_of_isNaming {warning : Warning} (naming : warning.isNaming) :
    ¬warning.isUnmapped := by
  cases warning with
  | unmapped => cases naming
  | _ => exact Bool.false_ne_true

theorem filter_isUnmapped (generator : Generator) (model : Model) :
    (generator.warnings model).filter Warning.isUnmapped =
      unmappedWarnings generator.settings model := by
  have before : (fieldCountWarnings model ++ keyWarnings model).filter Warning.isUnmapped = [] :=
    List.filter_eq_nil_iff.mpr fun warning inside => (other_of_mem warning inside).1
  have behind : (namingWarnings model).filter Warning.isUnmapped = [] :=
    List.filter_eq_nil_iff.mpr fun warning inside =>
      not_isUnmapped_of_isNaming (isNaming_of_mem warning inside)
  rw [warnings_eq, List.filter_append, List.filter_append, before, behind,
    List.filter_eq_self.mpr isUnmapped_of_mem, List.nil_append, List.append_nil]

theorem unwarned_iff (generator : Generator) (model : Model) :
    (∀ warning ∈ generator.warnings model, ¬warning.isNaming) ↔ namingWarnings model = [] := by
  rw [warnings_eq, List.eq_nil_iff_forall_not_mem]
  simp only [List.forall_mem_append]
  constructor
  · rintro ⟨_, silent⟩ warning inside
    exact silent warning inside (isNaming_of_mem warning inside)
  · intro empty
    refine ⟨⟨List.forall_mem_append.mp fun warning inside => (other_of_mem warning inside).2, ?_⟩,
      fun warning inside => absurd inside (empty warning)⟩
    intro warning inside naming
    exact not_isUnmapped_of_isNaming naming (isUnmapped_of_mem warning inside)

end Generator

/-! Names -/

namespace Model

def spelledNames (model : Model) : List String :=
  (if model.package = "" then [] else Text.splitAtChar '.' model.package) ++
    model.name :: model.fields.map Field.name

structure HasValidNames (model : Model) : Prop where
  formed : ∀ name ∈ model.spelledNames, HasForm name ∧ name ∉ reservedWords
  apart : ∀ field ∈ model.fields, field.name ≠ Naming.instanceName model.name

end Model

namespace Generator

theorem namingWarnings_eq_nil_iff {model : Model} :
    namingWarnings model = [] ↔
      (∀ name ∈ model.spelledNames, HasLooseForm name ∧ name ∉ reservedWords) ∧
        ∀ field ∈ model.fields, field.name ≠ Naming.instanceName model.name := by
  have package : packageProblems model.package = [] ↔
      ∀ name ∈ if model.package = "" then [] else Text.splitAtChar '.' model.package,
        nameProblems name = [] := by
    unfold packageProblems
    split <;> simp [List.flatMap_eq_nil_iff]
  have field (field : Field) : fieldWarnings model field = [] ↔
      nameProblems field.name = [] ∧ field.name ≠ Naming.instanceName model.name := by
    simp [fieldWarnings]
  simp only [← nameProblems_eq_nil_iff, Model.spelledNames, List.forall_mem_append,
    List.forall_mem_cons, List.forall_mem_map, ← package, namingWarnings, List.append_eq_nil_iff,
    List.map_eq_nil_iff, List.flatMap_eq_nil_iff, field, forall_and]
  tauto

/-- No name is warned about exactly if every name has the form of an identifier, except that it may
have one line feed behind it, and none is reserved or taken twice. The names of a model are valid
exactly if besides none of them ends with a line feed. -/
theorem namingWarnings_iff (generator : Generator) (model : Model) :
    ((∀ warning ∈ generator.warnings model, ¬warning.isNaming) ↔
      (∀ name ∈ model.spelledNames, HasLooseForm name ∧ name ∉ reservedWords) ∧
        ∀ field ∈ model.fields, field.name ≠ Naming.instanceName model.name) ∧
    (model.HasValidNames ↔ (∀ warning ∈ generator.warnings model, ¬warning.isNaming) ∧
      ∀ name ∈ model.spelledNames, ¬EndsInNewline name) := by
  have unwarned := (unwarned_iff generator model).trans namingWarnings_eq_nil_iff
  refine ⟨unwarned, ?_⟩
  rw [unwarned]
  constructor
  · rintro ⟨formed, apart⟩
    refine ⟨⟨fun name inside => ?_, apart⟩, fun name inside => ?_⟩
    · exact ⟨(hasForm_iff.mp (formed name inside).1).1, (formed name inside).2⟩
    · exact (hasForm_iff.mp (formed name inside).1).2
  · rintro ⟨⟨loose, apart⟩, unended⟩
    refine ⟨fun name inside => ?_, apart⟩
    exact ⟨hasForm_iff.mpr ⟨(loose name inside).1, unended name inside⟩, (loose name inside).2⟩

def brokenModel : Model where
  package := "app"
  name := "Ledger"
  fields := [⟨"count\n", "long"⟩]
  table := none
  named := by decide
  distinct := by decide

/-- Nothing warns about that name. -/
theorem namingWarnings_broken :
    ¬((∀ warning ∈ standard.warnings brokenModel, ¬warning.isNaming) ↔
      brokenModel.HasValidNames) := by
  have unwarned : ∀ warning ∈ standard.warnings brokenModel, ¬warning.isNaming := by
    have empty : standard.warnings brokenModel = [] := by decide +kernel
    simp [empty]
  intro same
  have formed := ((same.mp unwarned).formed "count\n" (by decide +kernel)).1
  exact newline_not_mem formed (by decide)

end Generator

/-! Storage types -/

def storageRules : List (Category × StorageType) :=
  [(.string, .varchar), (.integer, .integer), (.timestamp, .timestamp), (.boolean, .boolean),
    (.long, .bigint), (.double, .double), (.float, .float)]

theorem lookup_storageRules (category : Category) :
    storageRules.lookup category = if category = .other then none else some category.storage := by
  cases category <;> rfl

inductive Origin where
  | override (storage : StorageType)
  | rule (storage : StorageType)
  | fallback
  deriving DecidableEq, Repr

def Origin.storage : Origin → StorageType
  | override storage => storage
  | rule storage => storage
  | fallback => .varchar

namespace TypeMapping

def originOf (mapping : TypeMapping) (field : Field) : Origin :=
  match mapping.overrides.lookup field.typeName with
  | some storage => .override storage
  | none =>
    match storageRules.lookup field.category with
    | some storage => .rule storage
    | none => .fallback

variable (mapping : TypeMapping) {field : Field}

theorem storage_eq_originOf (field : Field) :
    mapping.storage field.typeName = (mapping.originOf field).storage := by
  rw [storage, originOf, lookup_storageRules, Field.category]
  cases mapping.overrides.lookup field.typeName with
  | some storage => rfl
  | none =>
    by_cases other : Category.ofDeclared field.typeName = .other
    · simp [other, Origin.storage, Category.storage]
    · simp [other, Origin.storage]

theorem originOf_of_lookup {storage : StorageType}
    (chosen : mapping.overrides.lookup field.typeName = some storage) :
    mapping.originOf field = .override storage := by
  simp [originOf, chosen]

theorem originOf_of_rule {storage : StorageType}
    (absent : mapping.overrides.lookup field.typeName = none)
    (rule : storageRules.lookup field.category = some storage) :
    mapping.originOf field = .rule storage := by
  simp [originOf, absent, rule]

theorem originOf_eq_fallback_iff :
    mapping.originOf field = .fallback ↔
      mapping.overrides.lookup field.typeName = none ∧ field.category = .other := by
  rw [originOf, lookup_storageRules]
  cases mapping.overrides.lookup field.typeName with
  | some storage => simp
  | none => by_cases other : field.category = .other <;> simp [other]

end TypeMapping

def storageIn (columns : List Column) (fieldName : String) : Option StorageType :=
  (columns.find? fun column => column.fieldName == fieldName).map Column.storage

theorem storageIn_columns (mapping : TypeMapping) {model : Model} {field : Field}
    (inside : field ∈ model.fields) :
    storageIn (model.columns mapping) field.name = some (mapping.originOf field).storage := by
  have found : (model.columns mapping).find? (fun column => column.fieldName == field.name) =
      (model.field? field.name).map (Column.ofField mapping) := by
    rw [Model.columns, List.find?_map]
    rfl
  rw [storageIn, found, Model.field?_eq_some inside, ← mapping.storage_eq_originOf]
  rfl

def StoredAs (support : TableSupport) (mapper : Mapper.Interface) (field : Field)
    (storage : StorageType) : Prop :=
  storageIn support.columns field.name = some storage ∧
    storageIn mapper.columns field.name = some storage

structure ReportsFallbacks (generator : Generator) (model : Model) (support : TableSupport)
    (mapper : Mapper.Interface) : Prop where
  texts : ((generator.warnings model).filter Warning.isUnmapped).map Warning.message =
    (model.fields.filter fun field => generator.mapping.originOf field = .fallback).map fun field =>
      "Unmapped type '" ++ field.typeName ++ "' in " ++ model.name ++ "." ++ field.name ++
        " - stored as VARCHAR"
  reported : ∀ field ∈ model.fields,
    .unmapped field.typeName model.name field.name ∈ generator.warnings model ↔
      generator.mapping.originOf field = .fallback
  unmapped : ∀ field ∈ model.fields,
    .unmapped field.typeName model.name field.name ∈ generator.warnings model →
      StoredAs support mapper field .varchar
  overridden : ∀ field ∈ model.fields, ∀ given,
    generator.settings.typeOverrides.lookup field.typeName = some given →
      ∃ storage, storage.name = Text.upper given ∧ StoredAs support mapper field storage
  ruled : ∀ field ∈ model.fields,
    .unmapped field.typeName model.name field.name ∉ generator.warnings model →
      generator.settings.typeOverrides.lookup field.typeName = none →
        ∃ storage, storageRules.lookup field.category = some storage ∧
          StoredAs support mapper field storage

namespace Generator

section Making

variable {settings : Settings} {library : Template.Library} {generator : Generator}
  (made : make settings library = .ok generator)

include made

theorem lookup_of_made (typeName : String) :
    (generator.settings.typeOverrides.lookup typeName = none ∧
        generator.mapping.overrides.lookup typeName = none) ∨
      ∃ given storage, generator.settings.typeOverrides.lookup typeName = some given ∧
        generator.mapping.overrides.lookup typeName = some storage ∧
          storage.name = Text.upper given := by
  obtain ⟨rfl, _, resolved⟩ := make_eq_ok_iff.mp made
  exact lookup_of_resolves resolved typeName

theorem unmappedWarnings_of_made (model : Model) :
    unmappedWarnings generator.settings model =
      (model.fields.filter fun field => generator.mapping.originOf field = .fallback).map
        fun field => .unmapped field.typeName model.name field.name := by
  refine congrArg (List.map _) (List.filter_congr fun field _ => ?_)
  rw [Bool.eq_iff_iff, decide_eq_true_iff, TypeMapping.originOf_eq_fallback_iff]
  rcases lookup_of_made made field.typeName with
    ⟨ungiven, absent⟩ | ⟨given, storage, chosen, found, _⟩
  · simp [ungiven, absent]
  · simp [chosen, found]

theorem mem_warnings_iff {model : Model} {field : Field} (inside : field ∈ model.fields) :
    .unmapped field.typeName model.name field.name ∈ generator.warnings model ↔
      generator.mapping.originOf field = .fallback := by
  have listed : .unmapped field.typeName model.name field.name ∈ generator.warnings model ↔
      .unmapped field.typeName model.name field.name ∈
        (generator.warnings model).filter Warning.isUnmapped := by
    simp [Warning.isUnmapped]
  rw [listed, filter_isUnmapped, unmappedWarnings_of_made made]
  constructor
  · intro member
    obtain ⟨other, kept, same⟩ := List.mem_map.mp member
    obtain ⟨also, fallback⟩ := List.mem_filter.mp kept
    -- The warning names the field, and no other field has that name.
    simp only [Warning.unmapped.injEq] at same
    rw [List.inj_on_of_nodup_map model.distinct also inside same.2.2] at fallback
    simpa using fallback
  · intro fallback
    exact List.mem_map.mpr ⟨field, List.mem_filter.mpr ⟨inside, by simpa using fallback⟩, rfl⟩

theorem originOf_of_given {field : Field} {given : String}
    (chosen : generator.settings.typeOverrides.lookup field.typeName = some given) :
    ∃ storage, storage.name = Text.upper given ∧
      generator.mapping.originOf field = .override storage := by
  rcases lookup_of_made made field.typeName with
    ⟨ungiven, _⟩ | ⟨other, storage, also, found, named⟩
  · simp [ungiven] at chosen
  · cases chosen.symm.trans also
    exact ⟨storage, named, TypeMapping.originOf_of_lookup _ found⟩

theorem originOf_of_unreported {model : Model} {field : Field} (inside : field ∈ model.fields)
    (unreported : .unmapped field.typeName model.name field.name ∉ generator.warnings model)
    (ungiven : generator.settings.typeOverrides.lookup field.typeName = none) :
    ∃ storage, storageRules.lookup field.category = some storage ∧
      generator.mapping.originOf field = .rule storage := by
  have absent : generator.mapping.overrides.lookup field.typeName = none := by
    rcases lookup_of_made made field.typeName with ⟨_, absent⟩ | ⟨given, _, chosen, _⟩
    · exact absent
    · simp [ungiven] at chosen
  cases rule : storageRules.lookup field.category with
  | none =>
    have other : field.category = .other := by simpa [lookup_storageRules] using rule
    exact absurd ((mem_warnings_iff made inside).mpr
      ((TypeMapping.originOf_eq_fallback_iff _).mpr ⟨absent, other⟩)) unreported
  | some storage => exact ⟨storage, rfl, TypeMapping.originOf_of_rule _ absent rule⟩

end Making

/-- If all fields have names, both units of a model store its fields as the warnings say. -/
theorem unmapped_iff_fallback {settings : Settings} {library : Template.Library}
    {generator : Generator} (made : make settings library = .ok generator) {model : Model}
    (named : ∀ field ∈ model.fields, field.name ≠ "") (width : Nat) :
    ∃ mapper, generator.interface width model = .ok mapper ∧
      SameColumns generator width model (generator.support model) mapper ∧
      ReportsFallbacks generator model (generator.support model) mapper := by
  refine ⟨_, Mapper.Interface.ofModel_eq _ _ width _ named,
    sameColumns_of_named generator width named, ?_⟩
  have stored : ∀ field ∈ model.fields, StoredAs (generator.support model)
      (.of generator.settings generator.mapping width (generator.support model).name model) field
        (generator.mapping.originOf field).storage :=
    fun field inside => ⟨storageIn_columns _ inside, storageIn_columns _ inside⟩
  exact {
    texts := by
      rw [filter_isUnmapped, unmappedWarnings_of_made made, List.map_map]
      rfl
    reported := fun field inside => mem_warnings_iff made inside
    unmapped := by
      intro field inside reported
      have own := stored field inside
      rwa [(mem_warnings_iff made inside).mp reported] at own
    overridden := by
      intro field inside given chosen
      obtain ⟨storage, named, origin⟩ := originOf_of_given made chosen
      have own := stored field inside
      rw [origin] at own
      exact ⟨storage, named, own⟩
    ruled := by
      intro field inside unreported ungiven
      obtain ⟨storage, rule, origin⟩ := originOf_of_unreported made inside unreported ungiven
      have own := stored field inside
      rw [origin] at own
      exact ⟨storage, rule, own⟩ }

def blankOverrides : Settings :=
  { typeOverrides := [(" java.util.UUID", "binary"), ("String", "Clob")] }

def blankGenerator : Generator :=
  ⟨blankOverrides, ⟨[(" java.util.UUID", .binary), ("String", .clob)]⟩, .shipped⟩

def blankModel : Model where
  package := "app"
  name := "Invoice"
  fields := [⟨"id", " long"⟩, ⟨"token", " java.util.UUID"⟩, ⟨"owner", "java.util.UUID"⟩,
    ⟨"label", "String"⟩]
  table := none
  named := by decide
  distinct := by decide

theorem unmapped_iff_fallback_blank :
    make blankOverrides .shipped = .ok blankGenerator ∧
      (∀ field ∈ blankModel.fields, field.name ≠ "") ∧
      ∃ mapper, blankGenerator.interface 4 blankModel = .ok mapper ∧
        SameColumns blankGenerator 4 blankModel (blankGenerator.support blankModel) mapper ∧
        ReportsFallbacks blankGenerator blankModel (blankGenerator.support blankModel) mapper := by
  have binary : StorageType.binary.name = Text.upper "binary" := by decide +kernel
  have clob : StorageType.clob.name = Text.upper "Clob" := by decide +kernel
  have made : make blankOverrides .shipped = .ok blankGenerator :=
    make_eq_ok_iff.mpr ⟨rfl, rfl, .cons ⟨rfl, binary⟩ (.cons ⟨rfl, clob⟩ .nil)⟩
  have named : ∀ field ∈ blankModel.fields, field.name ≠ "" := by decide
  exact ⟨made, named, unmapped_iff_fallback made named 4⟩

/-- The blank counts for overrides and not for rules. -/
example : blankGenerator.warnings blankModel = [.unmapped "java.util.UUID" "Invoice" "owner"] := by
  decide +kernel

end Generator

end SqlScaffold
