import SqlScaffold.Proofs.Generator
import SqlScaffold.Proofs.Source.Imports

/-!
The imports of the two units of a model. They ascend, no two of them share a simple name, and every
qualified type is written so that its unit refers to that type and to no other.
-/

namespace SqlScaffold

open Source

namespace TableSupport

def vocabulary : List String :=
  ["java.sql.JDBCType", tableImport, "org.mybatis.dynamic.sql.SqlColumn"]

def takenNames : List String :=
  ["JDBCType", "AliasableSqlTable", "SqlColumn"]

theorem isVocabulary : IsVocabulary vocabulary takenNames := by
  have checked : (∀ imported ∈ vocabulary, isQualified imported) ∧
      vocabulary.map simpleName = takenNames ∧ takenNames.Nodup := by
    decide +kernel
  exact ⟨checked.1, checked.2.1, checked.2.2⟩

theorem mem_vocabulary (columns : List Column) :
    ∀ imported ∈ fixedImports columns, imported ∈ vocabulary := by
  intro imported member
  unfold fixedImports at member
  split at member
  · simp [List.mem_singleton.mp member, vocabulary]
  · exact member

theorem unitImports (settings : Settings) (mapping : TypeMapping) {model : Model}
    (word : isWord model.name.toList)
    (unfixed : ∀ imported ∈ fixedImports (model.columns mapping),
      simpleName imported ≠ model.name) :
    UnitImports model.package (fixedImports (model.columns mapping)) [model.qualifiedName]
      (fixedImports (model.columns mapping) ++ [model.qualifiedName])
      ((model.columns mapping).map Column.valueType) (ofModel settings mapping model).imports where
  mem_iff := by
    intro imported
    simp [ofModel, mem_ascending]
  reserved_iff := by
    intro name
    simp
  qualified := isVocabulary.qualified_of_known (mem_vocabulary _)
  consistent := isVocabulary.consistent_of_entity (mem_vocabulary _) model.package word unfixed
    (by simp [Model.qualifiedName])

theorem writtenType_ofModel (settings : Settings) (mapping : TypeMapping) {model : Model}
    {column : Column} (member : column ∈ model.columns mapping) :
    (ofModel settings mapping model).writtenType column.valueType =
      spelling (fileOwner ((model.columns mapping).map Column.valueType)
        (fixedImports (model.columns mapping) ++ [model.qualifiedName])
          (simpleName column.valueType)) column.valueType := by
  have written := lookup_written_resolve model.package
    (fixedImports (model.columns mapping) ++ [model.qualifiedName])
    (List.mem_map_of_mem (f := Column.valueType) member)
  simp only [writtenType, ofModel, written, Option.getD_some]

end TableSupport

def Model.keyTypes (model : Model) : List String :=
  (model.identity?.map fun field => boxedType field.typeName).toList

namespace Mapper

def standingImports (columns : List Column) : List String :=
  fixedImports "" ++
    (Subject.commonOperations ⟨"", "", "", "", columns⟩).flatMap Operation.imports ++
      if (columns.find? Column.primaryKey).isSome then keyOperationImports else []

def vocabulary : List String :=
  fixedImports "" ++ keyOperationImports ++
    [selectProvider, providerAdapter, selectStatement, selectCompleter, listType,
      "org.apache.ibatis.annotations.Result", "org.apache.ibatis.annotations.Results",
      "org.apache.ibatis.annotations.ResultMap", "org.apache.ibatis.type.JdbcType"]

def takenNames : List String :=
  ["BasicColumn", "CommonCountMapper", "CommonInsertMapper", "CommonUpdateMapper",
    "CommonDeleteMapper", "Optional", "SqlBuilder", "MyBatis3Utils", "UpdateDSLCompleter",
    "DeleteDSLCompleter", "SelectProvider", "SqlProviderAdapter", "SelectStatementProvider",
    "SelectDSLCompleter", "List", "Result", "Results", "ResultMap", "JdbcType"]

theorem isVocabulary : IsVocabulary vocabulary takenNames := by
  have checked : (∀ imported ∈ vocabulary, isQualified imported) ∧
      vocabulary.map simpleName = takenNames ∧ takenNames.Nodup := by
    decide +kernel
  exact ⟨checked.1, checked.2.1, checked.2.2⟩

theorem commonImports_known (columns : List Column) :
    ∀ imported ∈ (Subject.commonOperations ⟨"", "", "", "", columns⟩).flatMap Operation.imports,
      imported ∈ vocabulary := by
  cases columns with
  | nil =>
    simp [Subject.commonOperations, Subject.insert, Subject.selectOneStatement,
      Subject.selectManyStatement, Subject.selectOneCompleter, Subject.selectManyCompleter,
      Subject.findAll, or_imp, forall_and, vocabulary, keyOperationImports]
  | cons =>
    simp [Subject.commonOperations, Subject.insert, Subject.selectOneStatement,
      Subject.selectManyStatement, Subject.selectOneCompleter, Subject.selectManyCompleter,
      Subject.findAll, or_imp, forall_and, vocabulary, keyOperationImports]

theorem mem_vocabulary (columns : List Column) :
    ∀ imported ∈ standingImports columns, imported ∈ vocabulary := by
  intro imported member
  rcases List.mem_append.mp member with always | keyed
  · rcases List.mem_append.mp always with fixed | common
    · simp [vocabulary, fixed]
    · exact commonImports_known columns imported common
  · split at keyed
    · simp [vocabulary, keyed]
    · cases keyed

variable (settings : Settings) (mapping : TypeMapping) (width : Nat) (supportName : String)
  {model : Model}

theorem keyOperationsOf_imports (subject : Subject) (key : Column) (keyType imported : String) :
    imported ∈ (subject.keyOperationsOf key keyType).flatMap Operation.imports ↔
      imported ∈ keyOperationImports := by
  simp only [Subject.keyOperationsOf, Subject.findById, Subject.updateOf,
    Subject.deleteByPrimaryKey, Subject.updateWith, Subject.deleteWith, List.flatMap_cons,
    List.flatMap_nil, List.mem_append, List.mem_cons, List.not_mem_nil, or_false,
    keyOperationImports]
  tauto

theorem mem_imports_of (imported : String) :
    imported ∈ (Interface.of settings mapping width supportName model).imports ↔
      imported ∈ standingImports (model.columns mapping) ∨
        imported ∈ keyImports model (.ofModel settings mapping width supportName model) := by
  have keyed : imported ∈ (keyedOperations model
        (.ofModel settings mapping width supportName model)).flatMap Operation.imports ↔
      imported ∈ if ((model.columns mapping).find? Column.primaryKey).isSome then
        keyOperationImports else [] := by
    have key : (model.columns mapping).find? Column.primaryKey =
        (Subject.ofModel settings mapping width supportName model).key? := rfl
    rw [key]
    unfold keyedOperations
    cases (Subject.ofModel settings mapping width supportName model).key? with
    | none => simp
    | some column => simpa using keyOperationsOf_imports _ column _ imported
  simp only [Interface.of, mem_ascending, List.flatMap_append, List.mem_append, keyed,
    standingImports, or_assoc]
  rfl

def guardedNames (model : Model) : List String :=
  if model.package = "" then [] else [model.qualifiedName]

theorem mem_guardedNames {name : String} (guarded : name ∈ guardedNames model) :
    model.package ≠ "" ∧ name = model.qualifiedName := by
  unfold guardedNames at guarded
  split at guarded
  · cases guarded
  · next named => exact ⟨named, List.mem_singleton.mp guarded⟩

theorem consistent_of_standing {reserved : List String} (word : isWord model.name.toList)
    (unfixed : ∀ imported ∈ standingImports (model.columns mapping),
      simpleName imported ≠ model.name)
    (reserves : ∀ name, name ∈ reserved ↔
      name ∈ standingImports (model.columns mapping) ∨ name ∈ guardedNames model) :
    Consistent reserved :=
  isVocabulary.consistent_of_entity (mem_vocabulary _) model.package word unfixed fun name member =>
    ((reserves name).mp member).imp_right fun guarded => (mem_guardedNames guarded).2

theorem mem_reservedForKey {key : Column}
    (found : (model.columns mapping).find? Column.primaryKey = some key) (name : String) :
    name ∈ reservedForKey model
        (Subject.ofModel settings mapping width supportName model).commonOperations ↔
      name ∈ standingImports (model.columns mapping) ∨ name ∈ guardedNames model := by
  have common : (Subject.ofModel settings mapping width supportName
        model).commonOperations.flatMap Operation.imports =
      (Subject.commonOperations ⟨"", "", "", "", model.columns mapping⟩).flatMap
        Operation.imports := rfl
  simp only [reservedForKey, standingImports, guardedNames, common, found, Option.isSome_some,
    if_true, List.mem_append]
  change ((_ ∨ _) ∨ name ∈ fixedImports "") ∨ _ ↔ _
  tauto

theorem keyTypes_eq : model.keyTypes =
    (((model.columns mapping).find? Column.primaryKey).map Column.valueType).toList := by
  have found : (model.columns mapping).find? Column.primaryKey =
      model.identity?.map (Column.ofField mapping) :=
    Subject.key?_ofModel {} mapping 0 "" model
  rw [found, Option.map_map]
  rfl

theorem keyTypeOf_eq_spelling {key : Column}
    (found : (model.columns mapping).find? Column.primaryKey = some key) :
    keyTypeOf model (.ofModel settings mapping width supportName model) key =
      spelling (fileOwner model.keyTypes (reservedForKey model
        (Subject.ofModel settings mapping width supportName model).commonOperations)
          (simpleName key.valueType)) key.valueType := by
  have types : model.keyTypes = [key.valueType] := by
    rw [keyTypes_eq mapping, found]
    rfl
  rw [keyTypeOf, keyReferences, types, lookup_written_resolve _ _ List.mem_cons_self]
  rfl

section Reserving

variable (word : isWord model.name.toList)
  (unfixed : ∀ imported ∈ standingImports (model.columns mapping),
    simpleName imported ≠ model.name)

include word unfixed

theorem unitImports_keyless (keyless : (model.columns mapping).find? Column.primaryKey = none) :
    UnitImports model.package (standingImports (model.columns mapping)) (guardedNames model)
      (standingImports (model.columns mapping) ++ guardedNames model) model.keyTypes
      (Interface.of settings mapping width supportName model).imports where
  mem_iff := by
    intro imported
    have absent : (Subject.ofModel settings mapping width supportName model).key? = none := keyless
    simp [mem_imports_of, keyTypes_eq mapping, keyless, keyImports, absent, mem_imports_resolve]
  reserved_iff := by simp
  qualified := isVocabulary.qualified_of_known (mem_vocabulary (model.columns mapping))
  consistent := consistent_of_standing mapping word unfixed (by simp)

theorem unitImports_keyed {key : Column}
    (found : (model.columns mapping).find? Column.primaryKey = some key) :
    UnitImports model.package (standingImports (model.columns mapping)) (guardedNames model)
      (reservedForKey model
        (Subject.ofModel settings mapping width supportName model).commonOperations)
      model.keyTypes (Interface.of settings mapping width supportName model).imports where
  mem_iff := by
    intro imported
    have keyed : (Subject.ofModel settings mapping width supportName model).key? = some key := found
    rw [mem_imports_of, keyImports, keyed, keyTypes_eq mapping, found]
    rfl
  reserved_iff := mem_reservedForKey settings mapping width supportName found
  qualified := isVocabulary.qualified_of_known (mem_vocabulary (model.columns mapping))
  consistent := consistent_of_standing mapping word unfixed
    (mem_reservedForKey settings mapping width supportName found)

/-- The imports of a mapper, with the names that are reserved against the type of its key. -/
theorem unitImports :
    ∃ reserved, UnitImports model.package (standingImports (model.columns mapping))
      (guardedNames model) reserved model.keyTypes
      (Interface.of settings mapping width supportName model).imports ∧
        ∀ key, (model.columns mapping).find? Column.primaryKey = some key →
          keyTypeOf model (.ofModel settings mapping width supportName model) key =
            spelling (fileOwner model.keyTypes reserved (simpleName key.valueType))
              key.valueType := by
  cases found : (model.columns mapping).find? Column.primaryKey with
  | none => exact ⟨_, unitImports_keyless settings mapping width supportName word unfixed found,
      by simp⟩
  | some key =>
    refine ⟨_, unitImports_keyed settings mapping width supportName word unfixed found, ?_⟩
    rintro other same
    cases same
    exact keyTypeOf_eq_spelling settings mapping width supportName found

end Reserving

theorem keyParameters_of {key : Column}
    (found : (model.columns mapping).find? Column.primaryKey = some key) :
    ∀ name ∈ ["findById", "deleteByPrimaryKey"],
      ((Interface.of settings mapping width supportName model).overloads name).map
          Operation.parameters =
        [[(keyTypeOf model (.ofModel settings mapping width supportName model) key,
          Subject.keyParameter)]] := by
  have keyed : (Subject.ofModel settings mapping width supportName model).key? = some key := found
  intro name member
  simp only [List.mem_cons, List.not_mem_nil, or_false] at member
  rcases member with rfl | rfl
  · rw [overloads_of_keyed _ _ _ _ _ (by simp), keyedOperations, keyed]
    rfl
  · rw [overloads_of_keyed _ _ _ _ _ (by simp), keyedOperations, keyed]
    rfl

end Mapper

namespace Generator

def fixedImports (generator : Generator) (model : Model) : List String :=
  TableSupport.fixedImports (model.columns generator.mapping) ++
    Mapper.standingImports (model.columns generator.mapping)

theorem unfixed_of_not_taken (generator : Generator) (model : Model)
    (free : model.name ∉ TableSupport.takenNames ++ Mapper.takenNames) :
    ∀ imported ∈ generator.fixedImports model, simpleName imported ≠ model.name := by
  intro imported member same
  refine free (same ▸ ?_)
  rcases List.mem_append.mp member with support | mapper
  · exact List.mem_append_left _
      (TableSupport.isVocabulary.simpleName_mem (TableSupport.mem_vocabulary _) imported support)
  · exact List.mem_append_right _
      (Mapper.isVocabulary.simpleName_mem (Mapper.mem_vocabulary _) imported mapper)

end Generator

structure SoundImports (model : Model) (support : TableSupport) (mapper : Mapper.Interface) :
    Prop where
  supportAscending : support.imports.Pairwise (· < ·)
  mapperAscending : mapper.imports.Pairwise (· < ·)
  supportApart : ∀ first ∈ support.imports, ∀ second ∈ support.imports,
    simpleName first = simpleName second → first = second
  mapperApart : ∀ first ∈ mapper.imports, ∀ second ∈ mapper.imports,
    simpleName first = simpleName second → first = second
  columns : ∀ column ∈ support.columns,
    Refers support.imports model.package column.valueType (support.writtenType column.valueType)
  key : ∀ field ∈ model.fields, field.isIdentity → ∃ written,
    (∀ name ∈ ["findById", "deleteByPrimaryKey"],
      (mapper.overloads name).map Mapper.Operation.parameters = [[(written, "recordId")]]) ∧
      Refers mapper.imports model.package (boxedType field.typeName) written

/-- Whatever types are declared, both units have sound imports if the name of the entity is an
identifier that no fixed import takes. -/
theorem imports_sound (generator : Generator) (width : Nat) {model : Model}
    (named : ∀ field ∈ model.fields, field.name ≠ "") (word : isWord model.name.toList)
    (unfixed : ∀ imported ∈ generator.fixedImports model, simpleName imported ≠ model.name) :
    ∃ mapper, generator.interface width model = .ok mapper ∧
      SoundImports model (generator.support model) mapper := by
  have support := TableSupport.unitImports generator.settings generator.mapping word
    fun imported member => unfixed imported (List.mem_append_left _ member)
  obtain ⟨reserved, mapper, keyType⟩ := Mapper.unitImports generator.settings generator.mapping
    width (generator.support model).name word
    fun imported member => unfixed imported (List.mem_append_right _ member)
  refine ⟨_, Mapper.Interface.ofModel_eq _ _ width _ named, ?_⟩
  exact {
    supportAscending := pairwise_ascending _
    mapperAscending := by simp only [Mapper.Interface.of, pairwise_ascending]
    supportApart := fun _ here _ there => support.eq_of_simpleName_eq here there
    mapperApart := fun _ here _ there => mapper.eq_of_simpleName_eq here there
    columns := by
      intro column member
      have refers := support.refers (List.mem_map_of_mem (f := Column.valueType) member)
      rwa [← TableSupport.writtenType_ofModel generator.settings generator.mapping member] at refers
    key := by
      intro field member identity
      have identified := Model.identity?_eq_some member identity
      have found : (model.columns generator.mapping).find? Column.primaryKey =
          some (Column.ofField generator.mapping field) := by
        have key := Mapper.Subject.key?_ofModel generator.settings generator.mapping width
          (generator.support model).name model
        rwa [identified] at key
      refine ⟨_, Mapper.keyParameters_of _ _ width _ found, ?_⟩
      rw [keyType _ found]
      refine mapper.refers ?_
      simp [Model.keyTypes, identified] }

def datedModel : Model where
  package := "app"
  name := "Event"
  fields := [⟨"id", "java.util.UUID"⟩, ⟨"due", "java.util.Date"⟩, ⟨"booked", "java.sql.Date"⟩]
  table := none
  named := by decide
  distinct := by decide

theorem imports_sound_dated :
    (∀ field ∈ datedModel.fields, field.name ≠ "") ∧ isWord datedModel.name.toList ∧
      (∀ imported ∈ Generator.standard.fixedImports datedModel,
        simpleName imported ≠ datedModel.name) ∧
      ∃ mapper, Generator.standard.interface 4 datedModel = .ok mapper ∧
        SoundImports datedModel (Generator.standard.support datedModel) mapper := by
  have named : ∀ field ∈ datedModel.fields, field.name ≠ "" := by decide
  have word : isWord datedModel.name.toList := by decide +kernel
  have unfixed := Generator.standard.unfixed_of_not_taken datedModel (by decide +kernel)
  exact ⟨named, word, unfixed, imports_sound .standard 4 named word unfixed⟩

end SqlScaffold
