import SqlScaffold.Proofs.Imports
import SqlScaffold.Proofs.Scan.Declaration
import SqlScaffold.Proofs.Source.Owners

/-!
Primitive types in the units of a model. The types of columns and keys are boxed, since a type
argument has to be a reference type. Boxing goes by the spelling of a declared type, while its
category goes by the type without the blanks around it, so that a primitive type with a blank beside
it stays primitive. A qualified type that is written by its simple name can read like a primitive
type as well.
-/

namespace SqlScaffold

open Text Source

def primitiveTypes : List String := ["int", "long", "boolean", "float", "double"]

def IsPrimitive (typeName : String) : Prop := trim typeName ∈ primitiveTypes

instance (typeName : String) : Decidable (IsPrimitive typeName) :=
  inferInstanceAs (Decidable (_ ∈ _))

def IsPadded (typeName : String) : Prop := IsPrimitive typeName ∧ typeName ∉ primitiveTypes

instance (typeName : String) : Decidable (IsPadded typeName) :=
  inferInstanceAs (Decidable (_ ∧ _))

def boxedCategories : List Category := [.integer, .long, .boolean, .float, .double]

theorem boxedType_of_mem {typeName : String} (primitive : typeName ∈ primitiveTypes) :
    ¬IsPrimitive (boxedType typeName) ∧ isQualified (boxedType typeName) = false := by
  have boxes : ∀ name ∈ primitiveTypes,
      ¬IsPrimitive (boxedType name) ∧ isQualified (boxedType name) = false := by
    decide +kernel
  exact boxes typeName primitive

theorem boxedType_of_not_mem {typeName : String} (unboxed : typeName ∉ primitiveTypes) :
    boxedType typeName = typeName := by
  have keys : ∀ name ∈ primitiveBoxes.map Prod.fst, name ∈ primitiveTypes := by decide +kernel
  have absent : primitiveBoxes.lookup typeName = none :=
    Keyed.lookup_eq_none_iff.mpr fun inside => unboxed (keys typeName inside)
  simp [boxedType, absent]

theorem isPrimitive_boxedType_iff {typeName : String} :
    IsPrimitive (boxedType typeName) ↔ IsPadded typeName := by
  by_cases primitive : typeName ∈ primitiveTypes
  · simp [IsPadded, primitive, (boxedType_of_mem primitive).1]
  · simp [IsPadded, primitive, boxedType_of_not_mem primitive]

theorem category_of_isPrimitive {typeName : String} (primitive : IsPrimitive typeName) :
    Category.ofDeclared typeName ∈ boxedCategories := by
  have categories : ∀ name ∈ primitiveTypes,
      (declaredCategories.lookup name).getD .other ∈ boxedCategories := by
    decide +kernel
  exact categories (trim typeName) primitive

theorem not_isPrimitive_of_mem {typeName : String} (pointed : '.' ∈ typeName.toList) :
    ¬IsPrimitive typeName := by
  have pointless : ∀ name ∈ primitiveTypes, '.' ∉ name.toList := by decide +kernel
  exact fun primitive => pointless _ primitive (mem_trim (by decide) pointed)

theorem not_isPrimitive_of_isQualified {typeName : String} (qualified : isQualified typeName) :
    ¬IsPrimitive typeName :=
  not_isPrimitive_of_mem (isQualified_iff.mp qualified).1

/-! Names that types are written by -/

theorem canonicalName_of_isPrimitive {typeName : String}
    (primitive : IsPrimitive (simpleName typeName)) : canonicalName typeName = typeName := by
  by_cases qualified : isQualified typeName
  · exact canonicalName_of_isQualified qualified
  · have plain : isQualified typeName = false := by simpa using qualified
    rw [simpleName_of_not_isQualified plain] at primitive
    have known : ∀ name ∈ wellKnownTypes.map Prod.fst, ¬IsPrimitive name := by decide +kernel
    have language : ∀ name ∈ languageTypes, ¬IsPrimitive name := by decide +kernel
    have absent : wellKnownTypes.lookup typeName = none :=
      Keyed.lookup_eq_none_iff.mpr fun inside => known typeName inside primitive
    have other : typeName ∉ languageTypes := fun inside => language typeName inside primitive
    simp [canonicalName, plain, absent, other]

theorem isPrimitive_spelling_iff {owner : Option String} {typeName : String} :
    IsPrimitive (spelling owner typeName) ↔ IsPrimitive typeName ∨
      (isQualified typeName ∧ IsPrimitive (simpleName typeName) ∧ owner = some typeName) := by
  by_cases qualified : isQualified typeName
  · have other := not_isPrimitive_of_isQualified qualified
    rw [spelling, canonicalName_of_isQualified qualified]
    by_cases owned : owner = some typeName <;> simp [owned, qualified, other]
  · have plain : isQualified typeName = false := by simpa using qualified
    simp [spelling, plain]

def EndsPrimitive (guarded : List String) (typeName : String) : Prop :=
  isQualified typeName ∧ IsPrimitive (simpleName typeName) ∧
    ∀ name ∈ guarded, simpleName name = simpleName typeName → name = typeName

theorem endsPrimitive_boxedType_iff {guarded : List String} {typeName : String} :
    EndsPrimitive guarded (boxedType typeName) ↔ EndsPrimitive guarded typeName := by
  by_cases primitive : typeName ∈ primitiveTypes
  · have plain : ∀ name ∈ primitiveTypes, isQualified name = false := by decide +kernel
    simp [EndsPrimitive, (boxedType_of_mem primitive).2, plain typeName primitive]
  · rw [boxedType_of_not_mem primitive]

structure GuardsPrimitives (guarded reserved : List String) : Prop where
  held : ∀ name ∈ guarded, name ∈ reserved
  known : ∀ name ∈ reserved, IsPrimitive (simpleName name) → name ∈ guarded
  apart : ∀ first ∈ guarded, ∀ second ∈ guarded, simpleName first = simpleName second →
    first = second

namespace GuardsPrimitives

/-- It is enough that the names reserved besides the guarded ones do not read like primitive types,
and that at most one name is guarded. -/
theorem of_reserved {fixed guarded reserved : List String}
    (reserves : ∀ name, name ∈ reserved ↔ name ∈ fixed ∨ name ∈ guarded)
    (other : ∀ name ∈ fixed, ¬IsPrimitive (simpleName name))
    (single : ∀ first ∈ guarded, ∀ second ∈ guarded, first = second) :
    GuardsPrimitives guarded reserved where
  held := fun name member => (reserves name).mpr (.inr member)
  known := fun name member primitive =>
    ((reserves name).mp member).resolve_left fun inside => other name inside primitive
  apart := fun first here second there _ => single first here second there

variable {guarded reserved : List String} (guards : GuardsPrimitives guarded reserved)
  (typeNames : List String) {typeName : String} (primitive : IsPrimitive (simpleName typeName))

include guards primitive

theorem owner?_of_guarded (inside : typeName ∈ guarded) :
    owner? typeNames reserved (simpleName typeName) = some typeName := by
  cases held : lastReserved? reserved (simpleName typeName) with
  | none =>
    have absent := List.find?_eq_none.mp held typeName (List.mem_reverse.mpr (guards.held _ inside))
    simp at absent
  | some name =>
    have member := List.mem_reverse.mp (List.mem_of_find?_eq_some held)
    have same : simpleName name = simpleName typeName := by simpa using List.find?_some held
    have also := guards.known name member (same ▸ primitive)
    rw [owner?, held, guards.apart name also typeName inside same]
    exact congrArg some (canonicalName_of_isPrimitive primitive)

theorem owner?_of_unguarded (free : ∀ name ∈ guarded, simpleName name ≠ simpleName typeName) :
    owner? typeNames reserved (simpleName typeName) =
      (firstClaimant? typeNames (simpleName typeName)).map canonicalName := by
  refine owner?_of_unreserved fun name member same => ?_
  exact free name (guards.known name member (same ▸ primitive)) same

end GuardsPrimitives

theorem exists_firstClaimant? {typeNames : List String} {typeName : String}
    (listed : typeName ∈ typeNames) :
    ∃ claimant ∈ typeNames, firstClaimant? typeNames (simpleName typeName) = some claimant ∧
      simpleName claimant = simpleName typeName := by
  cases first : firstClaimant? typeNames (simpleName typeName) with
  | none =>
    have listed : typeName ∈ typeNames.filter (fun name => !isQualified name) ++
        typeNames.filter isQualified := by
      cases qualified : isQualified typeName <;> simp [listed, qualified]
    exact absurd (beq_self_eq_true _) (List.find?_eq_none.mp first typeName listed)
  | some claimant =>
    exact ⟨claimant, mem_of_firstClaimant? first, rfl, by simpa using List.find?_some first⟩

/-- Some type is written like a primitive one exactly if one is declared so, or if a qualified type
ends so and the guarded names leave it its simple name. -/
theorem exists_isPrimitive_spelling_iff {guarded reserved : List String}
    (guards : GuardsPrimitives guarded reserved) (typeNames : List String) :
    (∃ typeName ∈ typeNames,
        IsPrimitive (spelling (owner? typeNames reserved (simpleName typeName)) typeName)) ↔
      ∃ typeName ∈ typeNames, IsPrimitive typeName ∨ EndsPrimitive guarded typeName := by
  constructor
  · rintro ⟨typeName, inside, written⟩
    refine ⟨typeName, inside, (isPrimitive_spelling_iff.mp written).imp_right ?_⟩
    rintro ⟨qualified, primitive, owned⟩
    refine ⟨qualified, primitive, fun name held same => ?_⟩
    rw [← same] at primitive owned
    rw [guards.owner?_of_guarded typeNames primitive held] at owned
    exact Option.some.inj owned
  · rintro ⟨typeName, inside, declared | ⟨qualified, primitive, left⟩⟩
    · exact ⟨typeName, inside, isPrimitive_spelling_iff.mpr (.inl declared)⟩
    · by_cases taken : ∃ name ∈ guarded, simpleName name = simpleName typeName
      · obtain ⟨name, held, same⟩ := taken
        obtain rfl := left name held same
        exact ⟨name, inside, isPrimitive_spelling_iff.mpr
          (.inr ⟨qualified, primitive, guards.owner?_of_guarded typeNames primitive held⟩)⟩
      · -- The simple name goes to the first type that claims it, which need not be this one.
        push Not at taken
        obtain ⟨claimant, listed, first, same⟩ := exists_firstClaimant? inside
        have owned := guards.owner?_of_unguarded typeNames primitive taken
        rw [← same] at primitive owned
        rw [same, first, Option.map_some, canonicalName_of_isPrimitive primitive] at owned
        refine ⟨claimant, listed, isPrimitive_spelling_iff.mpr ?_⟩
        by_cases also : isQualified claimant
        · exact .inr ⟨also, primitive, same ▸ owned⟩
        · rw [simpleName_of_not_isQualified (by simpa using also)] at primitive
          exact .inl primitive

/-! Both units -/

namespace TableSupport

theorem guardsPrimitives (model : Model) (columns : List Column) :
    GuardsPrimitives [model.qualifiedName] (fixedImports columns ++ [model.qualifiedName]) := by
  have other : ∀ name ∈ takenNames, ¬IsPrimitive name := by decide +kernel
  refine .of_reserved (fun name => List.mem_append) (fun name fixed => ?_) (by simp)
  exact other _ (isVocabulary.simpleName_mem (mem_vocabulary columns) name fixed)

theorem exists_isPrimitive_writtenType_iff (settings : Settings) (mapping : TypeMapping)
    (model : Model) :
    (∃ column ∈ model.columns mapping,
        IsPrimitive ((ofModel settings mapping model).writtenType column.valueType)) ↔
      ∃ field ∈ model.fields, IsPadded field.typeName ∨
        EndsPrimitive [model.qualifiedName] field.typeName := by
  have spelled := exists_isPrimitive_spelling_iff (guardsPrimitives model (model.columns mapping))
    ((model.columns mapping).map Column.valueType)
  have fields : (model.columns mapping).map Column.valueType =
      model.fields.map fun field => boxedType field.typeName := by
    rw [Model.columns, List.map_map]
    rfl
  have declared : (∃ typeName ∈ (model.columns mapping).map Column.valueType,
        IsPrimitive typeName ∨ EndsPrimitive [model.qualifiedName] typeName) ↔
      ∃ field ∈ model.fields, IsPadded field.typeName ∨
        EndsPrimitive [model.qualifiedName] field.typeName := by
    rw [fields]
    simp only [List.mem_map, exists_exists_and_eq_and, isPrimitive_boxedType_iff,
      endsPrimitive_boxedType_iff]
  rw [← declared, ← spelled]
  simp only [List.mem_map, exists_exists_and_eq_and]
  refine exists_congr fun column => and_congr_right fun inside => ?_
  rw [writtenType_ofModel settings mapping inside, fileOwner_eq]

end TableSupport

theorem Model.forall_identity_iff {model : Model} {own : Field}
    (identified : model.identity? = some own) {p : Field → Prop} :
    (∀ field ∈ model.fields, field.isIdentity → p field) ↔ p own := by
  constructor
  · exact fun all => all own (List.mem_of_find?_eq_some identified) (List.find?_some identified)
  · intro holds field inside identity
    cases identified.symm.trans (Model.identity?_eq_some inside identity)
    exact holds

namespace Mapper

variable (settings : Settings) (mapping : TypeMapping) (width : Nat) (supportName : String)
  {model : Model}

theorem guardsPrimitives {key : Column}
    (found : (model.columns mapping).find? Column.primaryKey = some key) :
    GuardsPrimitives (guardedNames model) (reservedForKey model
      (Subject.ofModel settings mapping width supportName model).commonOperations) := by
  have other : ∀ name ∈ takenNames, ¬IsPrimitive name := by decide +kernel
  refine .of_reserved (mem_reservedForKey settings mapping width supportName found)
    (fun name standing => ?_) (fun first here second there => ?_)
  · exact other _ (isVocabulary.simpleName_mem (mem_vocabulary _) name standing)
  · rw [(mem_guardedNames here).2, (mem_guardedNames there).2]

theorem isPrimitive_keyTypeOf_iff {key : Column}
    (found : (model.columns mapping).find? Column.primaryKey = some key) :
    IsPrimitive (keyTypeOf model (.ofModel settings mapping width supportName model) key) ↔
      IsPrimitive key.valueType ∨ EndsPrimitive (guardedNames model) key.valueType := by
  have spelled := exists_isPrimitive_spelling_iff
    (guardsPrimitives settings mapping width supportName found) [key.valueType]
  simp only [List.mem_singleton, exists_eq_left] at spelled
  rw [← spelled, keyTypeOf, keyReferences, lookup_resolve List.mem_cons_self]
  rfl

theorem overloads_of_no_identity (keyless : model.identity? = none) :
    ∀ name ∈ ["findById", "deleteByPrimaryKey"],
      (Interface.of settings mapping width supportName model).overloads name = [] := by
  have key := Subject.key?_ofModel settings mapping width supportName model
  rw [keyless, Option.map_none] at key
  intro name member
  have keyed : name ∉ ["insert", "selectOne", "selectMany", "findAll"] := by
    simp only [List.mem_cons, List.not_mem_nil, or_false] at member
    rcases member with rfl | rfl <;> decide
  rw [overloads_of_keyed _ _ _ _ _ keyed, keyedOperations, key]
  rfl

theorem forall_parameters_iff {key : Column}
    (found : (model.columns mapping).find? Column.primaryKey = some key) {p : String → Prop} :
    (∀ name ∈ ["findById", "deleteByPrimaryKey"],
        ∀ operation ∈ (Interface.of settings mapping width supportName model).overloads name,
          ∀ parameter ∈ operation.parameters, p parameter.1) ↔
      p (keyTypeOf model (.ofModel settings mapping width supportName model) key) := by
  have parameters := keyParameters_of settings mapping width supportName found
  constructor
  · intro all
    obtain ⟨operation, single, same⟩ :=
      List.map_eq_singleton_iff.mp (parameters "findById" List.mem_cons_self)
    have taken := all "findById" List.mem_cons_self operation
      (by rw [single]; exact List.mem_singleton_self operation)
    rw [same] at taken
    exact taken _ (List.mem_singleton_self _)
  · intro own name member operation inside parameter taken
    have listed := List.mem_map_of_mem (f := Operation.parameters) inside
    rw [parameters name member, List.mem_singleton] at listed
    rw [listed, List.mem_singleton] at taken
    rwa [taken]

theorem forall_keyParameters_iff :
    (∀ name ∈ ["findById", "deleteByPrimaryKey"],
        ∀ operation ∈ (Interface.of settings mapping width supportName model).overloads name,
          ∀ parameter ∈ operation.parameters, ¬IsPrimitive parameter.1) ↔
      ∀ field ∈ model.fields, field.isIdentity → ¬IsPadded field.typeName ∧
        ¬EndsPrimitive (guardedNames model) field.typeName := by
  cases identified : model.identity? with
  | none =>
    have keyless : ∀ field ∈ model.fields, ¬field.isIdentity := List.find?_eq_none.mp identified
    refine iff_of_true ?_ fun field inside identity => absurd identity (keyless field inside)
    intro name member
    rw [overloads_of_no_identity settings mapping width supportName identified name member]
    exact List.forall_mem_nil _
  | some own =>
    have key := Subject.key?_ofModel settings mapping width supportName model
    rw [identified, Option.map_some] at key
    have written := (isPrimitive_keyTypeOf_iff settings mapping width supportName key).trans
      (or_congr isPrimitive_boxedType_iff endsPrimitive_boxedType_iff)
    have taken := forall_parameters_iff settings mapping width supportName key
      (p := fun typeName => ¬IsPrimitive typeName)
    have only := Model.forall_identity_iff identified (p := fun field =>
      ¬IsPadded field.typeName ∧ ¬EndsPrimitive (guardedNames model) field.typeName)
    rw [taken, only, written, not_or]

end Mapper

structure UsesReferences (support : TableSupport) (mapper : Mapper.Interface) : Prop where
  valueTypes : ∀ column ∈ support.columns ++ mapper.columns, ¬IsPrimitive column.valueType
  arguments : ∀ column ∈ support.columns, ¬IsPrimitive (support.writtenType column.valueType)
  keys : ∀ name ∈ ["findById", "deleteByPrimaryKey"], ∀ operation ∈ mapper.overloads name,
    ∀ parameter ∈ operation.parameters, ¬IsPrimitive parameter.1

structure LeavesPrimitives (model : Model) (support : TableSupport) (mapper : Mapper.Interface) :
    Prop where
  categories : ∀ field ∈ model.fields,
    field.category ∈ boxedCategories ∧ IsPrimitive (boxedType field.typeName) ↔
      IsPadded field.typeName
  valueTypes : ∀ columns ∈ [support.columns, mapper.columns],
    List.Forall₂ (fun field column => column.fieldName = field.name ∧
      (IsPrimitive column.valueType ↔ IsPadded field.typeName)) model.fields columns
  arguments : (∃ column ∈ support.columns, IsPrimitive (support.writtenType column.valueType)) ↔
    ∃ field ∈ model.fields, IsPadded field.typeName ∨
      EndsPrimitive [model.qualifiedName] field.typeName
  references : UsesReferences support mapper ↔ ∀ field ∈ model.fields,
    ¬IsPadded field.typeName ∧ ¬EndsPrimitive [model.qualifiedName] field.typeName ∧
      (field.isIdentity → ¬EndsPrimitive (Mapper.guardedNames model) field.typeName)

section Units

variable (generator : Generator) (width : Nat) (model : Model)

theorem usesReferences_iff :
    UsesReferences (generator.support model)
        (.of generator.settings generator.mapping width (generator.support model).name model) ↔
      ∀ field ∈ model.fields, ¬IsPadded field.typeName ∧
        ¬EndsPrimitive [model.qualifiedName] field.typeName ∧
          (field.isIdentity → ¬EndsPrimitive (Mapper.guardedNames model) field.typeName) := by
  have written := TableSupport.exists_isPrimitive_writtenType_iff generator.settings
    generator.mapping model
  have keys := @Mapper.forall_keyParameters_iff generator.settings generator.mapping width
    (generator.support model).name model
  constructor
  · rintro ⟨_, arguments, parameters⟩ field inside
    have unwritten : ¬(IsPadded field.typeName ∨
        EndsPrimitive [model.qualifiedName] field.typeName) := by
      intro primitive
      obtain ⟨column, listed, wrong⟩ := written.mpr ⟨field, inside, primitive⟩
      exact arguments column listed wrong
    obtain ⟨unpadded, ends⟩ := not_or.mp unwritten
    exact ⟨unpadded, ends, fun identity => (keys.mp parameters field inside identity).2⟩
  · intro free
    refine ⟨?valueTypes, ?arguments, ?keys⟩
    case valueTypes =>
      have values : ∀ column ∈ model.columns generator.mapping, ¬IsPrimitive column.valueType := by
        simpa [Model.columns, Column.ofField, isPrimitive_boxedType_iff] using
          fun field inside => (free field inside).1
      exact List.forall_mem_append.mpr ⟨values, values⟩
    case arguments =>
      intro column listed primitive
      obtain ⟨field, inside, wrong⟩ := written.mp ⟨column, listed, primitive⟩
      exact wrong.elim (free field inside).1 (free field inside).2.1
    case keys =>
      exact keys.mpr fun field inside identity =>
        ⟨(free field inside).1, (free field inside).2.2 identity⟩

theorem leavesPrimitives_of :
    LeavesPrimitives model (generator.support model)
      (.of generator.settings generator.mapping width (generator.support model).name model) where
  categories := by
    intro field _
    rw [isPrimitive_boxedType_iff]
    exact and_iff_right_of_imp fun padded => category_of_isPrimitive padded.1
  valueTypes := by
    have declared : List.Forall₂ (fun field column => column.fieldName = field.name ∧
        (IsPrimitive column.valueType ↔ IsPadded field.typeName)) model.fields
          (model.columns generator.mapping) :=
      List.forall₂_map_right_iff.mpr
        (List.forall₂_same.mpr fun _ _ => ⟨rfl, isPrimitive_boxedType_iff⟩)
    exact List.forall_mem_cons.mpr ⟨declared, List.forall_mem_singleton.mpr declared⟩
  arguments := TableSupport.exists_isPrimitive_writtenType_iff generator.settings
    generator.mapping model
  references := usesReferences_iff generator width model

end Units

/-- The units of a declared model use reference types exactly if no type is declared as a primitive
one with blanks around it, or as a qualified one that is written as if it were primitive. -/
theorem scan_leavesPrimitives (generator : Generator) (width : Nat) {value : Value}
    {defaultPackage : Option String} {model : Model}
    (scanned : (Scan.Input.scan (.declaration value) defaultPackage).value = .ok model) :
    ∃ mapper, generator.interface width model = .ok mapper ∧
      LeavesPrimitives model (generator.support model) mapper := by
  have named : ∀ field ∈ model.fields, field.name ≠ "" :=
    fun field inside => (Scan.named_of_scan scanned field inside).1
  exact ⟨_, Mapper.Interface.ofModel_eq _ _ width _ named,
    leavesPrimitives_of generator width model⟩

def declaredMember (name typeName : String) : Value :=
  .object [("name", .text name), ("type", .text typeName)]

def longDeclaration : Value :=
  .object [("package", .text "app"), ("name", .text "Stock"),
    ("fields", .list [declaredMember "id" "lib.long", declaredMember "count" "int"])]

def longModel : Model where
  package := "app"
  name := "Stock"
  fields := [⟨"id", "lib.long"⟩, ⟨"count", "int"⟩]
  table := some ""
  named := by decide
  distinct := by decide

theorem scan_leavesPrimitives_long :
    (Scan.Input.scan (.declaration longDeclaration) none).value = .ok longModel ∧
      ∃ mapper, Generator.standard.interface 4 longModel = .ok mapper ∧
        LeavesPrimitives longModel (Generator.standard.support longModel) mapper := by
  have scanned : (Scan.Input.scan (.declaration longDeclaration) none).value = .ok longModel := rfl
  exact ⟨scanned, scan_leavesPrimitives .standard 4 scanned⟩

def paddedDeclaration : Value :=
  .object [("name", .text "Crate"), ("fields", .list [declaredMember "count" " long "])]

def paddedModel : Model where
  package := ""
  name := "Crate"
  fields := [⟨"count", " long "⟩]
  table := some ""
  named := by decide
  distinct := by decide

/-- The category sees the primitive type through the blanks, and boxing does not. -/
theorem not_usesReferences_padded :
    (Scan.Input.scan (.declaration paddedDeclaration) none).value = .ok paddedModel ∧
      (∃ field ∈ paddedModel.fields,
        field.category = .long ∧ IsPrimitive (boxedType field.typeName)) ∧
      ∃ mapper, Generator.standard.interface 4 paddedModel = .ok mapper ∧
        ¬UsesReferences (Generator.standard.support paddedModel) mapper := by
  have padded : IsPadded " long " := by decide +kernel
  have named : ∀ field ∈ paddedModel.fields, field.name ≠ "" := by decide
  refine ⟨rfl, ⟨_, List.mem_cons_self, by decide +kernel, isPrimitive_boxedType_iff.mpr padded⟩, _,
    Mapper.Interface.ofModel_eq _ _ 4 _ named, fun references => ?_⟩
  have left := leavesPrimitives_of .standard 4 paddedModel
  exact (left.references.mp references _ List.mem_cons_self).1 padded

end SqlScaffold
