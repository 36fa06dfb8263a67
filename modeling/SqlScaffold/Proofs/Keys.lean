import SqlScaffold.Proofs.Columns
import SqlScaffold.Proofs.Imports

/-!
What the key of a model decides. One condition, that a field has the name of the key, stands behind
the column that is marked as the key, the operations on it with their imports, and the entry that is
marked in the annotation of the results.
-/

namespace SqlScaffold

open Mapper Source

namespace Model

variable (model : Model)

theorem filter_isIdentity : model.fields.filter Field.isIdentity = model.identity?.toList := by
  have distinct := model.distinct
  unfold identity?
  generalize model.fields = fields at distinct ⊢
  induction fields with
  | nil => rfl
  | cons field rest ih =>
    rw [List.map_cons, List.nodup_cons] at distinct
    by_cases identity : field.isIdentity
    · -- A second key would repeat the name of this field.
      have named : field.name = identityName := by simpa [Field.isIdentity] using identity
      have others : rest.filter Field.isIdentity = [] := by
        refine List.filter_eq_nil_iff.mpr fun other member same => distinct.1 ?_
        have otherNamed : other.name = identityName := by simpa [Field.isIdentity] using same
        rw [named, ← otherNamed]
        exact List.mem_map_of_mem member
      simp [identity, others]
    · simpa [identity] using ih distinct.2

theorem hasIdentity_iff : model.hasIdentity ↔ ∃ field ∈ model.fields, field.name = "id" := by
  rw [hasIdentity, identity?, List.find?_isSome]
  simp [Field.isIdentity, identityName]

theorem countP_isIdentity :
    model.fields.countP Field.isIdentity = if model.hasIdentity then 1 else 0 := by
  rw [List.countP_eq_length_filter, filter_isIdentity, hasIdentity]
  cases model.identity? with
  | none => rfl
  | some field => rfl

end Model

def isMarked (entry : String) : Bool := ", id = true)".toList.isSuffixOf entry.toList

/-- No name of a storage type reads like the end of a mark, whatever stands before it. -/
theorem not_isMarked_storage (before : List Char) (storage : StorageType) :
    ", id = true)".toList.isSuffixOf (before ++ storage.name.toList ++ [')']) = false := by
  rw [Bool.eq_false_iff, Ne, List.isSuffixOf_iff_suffix, ← List.reverse_prefix]
  cases storage <;> simp [StorageType.name, List.cons_prefix_cons]

theorem isMarked_resultText (indent : String) (mapping : TypeMapping) (field : Field) :
    isMarked (resultText indent mapping field) = field.isIdentity := by
  unfold isMarked resultText
  cases field.isIdentity with
  | true =>
    rw [if_pos rfl, String.toList_append, List.isSuffixOf_iff_suffix]
    exact List.suffix_append _ _
  | false =>
    rw [if_neg (by simp), String.toList_append, String.toList_append]
    exact not_isMarked_storage _ _

namespace Mapper

/-- Whatever is reserved, the type of a key is written in full or by its simple name. -/
theorem keyTypeOf_cases (model : Model) (subject : Subject) (key : Column) :
    keyTypeOf model subject key = key.valueType ∨
      keyTypeOf model subject key = simpleName key.valueType := by
  unfold keyTypeOf keyReferences
  rw [lookup_written_resolve _ _ List.mem_cons_self, Option.getD_some]
  unfold spelling
  split
  · exact Or.inr rfl
  · exact Or.inl rfl

def keyedImports : List String := [sqlBuilder, updateCompleter, deleteCompleter]

def keyedNames : List String := ["SqlBuilder", "UpdateDSLCompleter", "DeleteDSLCompleter"]

theorem simpleName_keyedImports : keyedImports.map simpleName = keyedNames := by decide +kernel

theorem keyedNames_imported {name : String} (member : name ∈ keyedNames) :
    ∃ imported ∈ keyedImports, imported ∈ keyOperationImports ∧ simpleName imported = name := by
  rw [← simpleName_keyedImports] at member
  obtain ⟨imported, keyed, named⟩ := List.mem_map.mp member
  have known : ∀ imported ∈ keyedImports, imported ∈ keyOperationImports := by
    simp [keyedImports, keyOperationImports]
  exact ⟨imported, keyed, known imported keyed, named⟩

theorem not_mem_keyedImports (columns : List Column) :
    ∀ imported ∈ fixedImports "" ++
      (Subject.commonOperations ⟨"", "", "", "", columns⟩).flatMap Operation.imports,
      imported ∉ keyedImports := by
  cases columns with
  | nil => decide +kernel
  | cons column rest =>
    simp [Subject.commonOperations, Subject.insert, Subject.selectOneStatement,
      Subject.selectManyStatement, Subject.selectOneCompleter, Subject.selectManyCompleter,
      Subject.findAll, or_imp, forall_and, fixedImports, commonInterfaces, keyedImports, sqlBuilder,
      updateCompleter, deleteCompleter, basicColumn, utilities, optionalType, selectProvider,
      providerAdapter, selectStatement, selectCompleter, listType]

theorem not_mem_keyedNames {columns : List Column}
    (keyless : columns.find? Column.primaryKey = none) :
    ∀ imported ∈ standingImports columns, simpleName imported ∉ keyedNames := by
  intro imported member named
  obtain ⟨other, keyed, operation, same⟩ := keyedNames_imported named
  have known : other ∈ vocabulary := by simp [vocabulary, operation]
  -- Simple names tell the imports of mappers apart.
  have distinct : (vocabulary.map simpleName).Nodup := isVocabulary.named ▸ isVocabulary.distinct
  obtain rfl := List.inj_on_of_nodup_map distinct known (mem_vocabulary columns imported member) same
  rw [standingImports, keyless, Option.isSome_none, if_neg (by simp), List.append_nil] at member
  exact not_mem_keyedImports columns other member keyed

section Interface

variable (settings : Settings) (mapping : TypeMapping) (width : Nat) (supportName : String)
  {model : Model}

theorem keyedNames_of_key {key : Column}
    (found : (model.columns mapping).find? Column.primaryKey = some key) :
    ∀ name ∈ keyedNames,
      ∃ imported ∈ (Interface.of settings mapping width supportName model).imports,
        simpleName imported = name := by
  intro name member
  obtain ⟨imported, _, keyed, named⟩ := keyedNames_imported member
  refine ⟨imported, (mem_imports_of _ _ _ _ imported).mpr (Or.inl ?_), named⟩
  simp [standingImports, found, keyed]

theorem not_imported_of_keyless
    (keyless : (model.columns mapping).find? Column.primaryKey = none) :
    ∀ imported ∈ (Interface.of settings mapping width supportName model).imports,
      simpleName imported ∉ keyedNames := by
  intro imported member
  rcases (mem_imports_of _ _ _ _ imported).mp member with standing | keyed
  · exact not_mem_keyedNames keyless imported standing
  · have unkeyed : (Subject.ofModel settings mapping width supportName model).key? = none := keyless
    simp [keyImports, unkeyed] at keyed

/-- The mapper imports what only operations on a key need exactly if there is a key. -/
theorem imports_keyedNames_iff {name : String} (member : name ∈ keyedNames) :
    (∃ imported ∈ (Interface.of settings mapping width supportName model).imports,
      simpleName imported = name) ↔ model.hasIdentity := by
  have key := Subject.key?_ofModel settings mapping width supportName model
  change (model.columns mapping).find? Column.primaryKey = _ at key
  rw [Model.hasIdentity]
  cases found : model.identity? with
  | none =>
    rw [found, Option.map_none] at key
    simp only [Option.isSome_none, Bool.false_eq_true, iff_false, not_exists, not_and]
    rintro imported inside rfl
    exact not_imported_of_keyless settings mapping width supportName key imported inside member
  | some field =>
    rw [found, Option.map_some] at key
    simpa using keyedNames_of_key settings mapping width supportName key name member

theorem names_operations :
    (Interface.of settings mapping width supportName model).operations.map Operation.name =
      ["insert", "selectOne", "selectMany", "selectOne", "selectMany", "findAll"] ++
        if model.hasIdentity then
          ["findById", "updateByPrimaryKey", "deleteByPrimaryKey", "update", "delete"]
        else [] := by
  have key := Subject.key?_ofModel settings mapping width supportName model
  simp only [Interface.of, List.map_append, names_commonOperations, keyedOperations, key]
  cases found : model.identity? with
  | none =>
    have keyless : ¬model.hasIdentity := by simp [Model.hasIdentity, found]
    rw [if_neg keyless]
    rfl
  | some field =>
    have keyed : model.hasIdentity := by simp [Model.hasIdentity, found]
    rw [if_pos keyed]
    rfl

end Interface

end Mapper

structure FollowsKey (generator : Generator) (width : Nat) (model : Model)
    (mapper : Interface) : Prop where
  identity : model.hasIdentity ↔ ∃ field ∈ model.fields, field.name = "id"
  columns : mapper.columns = (generator.support model).columns
  keys : mapper.columns.countP Column.primaryKey = if model.hasIdentity then 1 else 0
  operations : mapper.operations.map Operation.name =
    ["insert", "selectOne", "selectMany", "selectOne", "selectMany", "findAll"] ++
      if model.hasIdentity then
        ["findById", "updateByPrimaryKey", "deleteByPrimaryKey", "update", "delete"]
      else []
  parameters : ∀ field ∈ model.fields, field.name = "id" → ∃ written,
    (written = boxedType field.typeName ∨ written = simpleName (boxedType field.typeName)) ∧
      ∀ name ∈ ["findById", "deleteByPrimaryKey"],
        (mapper.overloads name).map Operation.parameters = [[(written, "recordId")]]
  imports : ∀ name ∈ ["SqlBuilder", "UpdateDSLCompleter", "DeleteDSLCompleter"],
    (∃ imported ∈ mapper.imports, simpleName imported = name) ↔ model.hasIdentity
  results : ∃ entries : List String,
    ((mapper.overloads "selectOne").filter Operation.legacy).map Operation.annotations =
        [[Subject.selectMark, resultsText mapper.resultMap entries]] ∧
      entries = model.fields.map (resultText (Text.repeated width ' ') generator.mapping) ∧
      entries.countP isMarked = if model.hasIdentity then 1 else 0

/-- If all fields have names, the mapper can be formed, and all of it follows the key. -/
theorem interface_followsKey (generator : Generator) {model : Model}
    (named : ∀ field ∈ model.fields, field.name ≠ "") (width : Nat) :
    ∃ mapper, generator.interface width model = .ok mapper ∧
      FollowsKey generator width model mapper := by
  have same := sameColumns_of_named generator width named
  refine ⟨_, Interface.ofModel_eq _ _ width _ named, ?_⟩
  exact {
    identity := model.hasIdentity_iff
    columns := same.bindings
    keys := by
      rw [← model.countP_isIdentity]
      exact List.countP_map
    operations := Mapper.names_operations _ _ width _
    parameters := by
      intro field member identity
      have key := Mapper.Subject.key?_ofModel generator.settings generator.mapping width
        (generator.support model).name model
      have isKey : field.isIdentity := by simp [Field.isIdentity, identityName, identity]
      rw [Model.identity?_eq_some member isKey] at key
      exact ⟨_, Mapper.keyTypeOf_cases model _ (Column.ofField generator.mapping field),
        Mapper.keyParameters_of _ _ width _ key⟩
    imports := fun _ => Mapper.imports_keyedNames_iff _ _ width _
    results := by
      refine ⟨_, same.results, rfl, ?_⟩
      have marked : isMarked ∘ resultText (Text.repeated width ' ') generator.mapping =
          Field.isIdentity := by
        funext field
        rw [Function.comp_apply, isMarked_resultText]
      rw [List.countP_map, marked, model.countP_isIdentity] }

/-- The key may stand anywhere among the fields. -/
theorem interface_followsKey_order :
    (∀ field ∈ orderModel.fields, field.name ≠ "") ∧
      ∃ mapper, Generator.standard.interface 4 orderModel = .ok mapper ∧
        FollowsKey .standard 4 orderModel mapper := by
  have named : ∀ field ∈ orderModel.fields, field.name ≠ "" := by decide
  exact ⟨named, interface_followsKey .standard named 4⟩

end SqlScaffold
