import Mathlib.Data.List.Nodup
import SqlScaffold.Mapper.Interface
import SqlScaffold.Proofs.Outcome

/-!
Mappers in closed form. If a model has no key, or every one of its fields has a name, every operation
can be formed, and the mapper is known part by part. The mapper of any other model cannot be formed.
-/

namespace SqlScaffold

theorem Model.field?_eq_some {model : Model} {field : Field} (member : field ∈ model.fields) :
    model.field? field.name = some field := by
  cases found : model.field? field.name with
  | none => exact absurd (beq_self_eq_true field.name) (List.find?_eq_none.mp found field member)
  | some other =>
    have named : other.name = field.name := by simpa using List.find?_some found
    rw [List.inj_on_of_nodup_map model.distinct (List.mem_of_find?_eq_some found) member named]

theorem Model.identity?_eq_some {model : Model} {field : Field} (member : field ∈ model.fields)
    (identity : field.isIdentity) : model.identity? = some field := by
  have named : field.name = identityName := by simpa [Field.isIdentity] using identity
  have found := Model.field?_eq_some member
  rwa [named] at found

def Model.IsFormable (model : Model) : Prop :=
  model.hasIdentity = true → ∀ field ∈ model.fields, field.name ≠ ""

instance (model : Model) : Decidable model.IsFormable :=
  inferInstanceAs (Decidable (_ → _))

theorem Model.IsFormable.of_named {model : Model} (named : ∀ field ∈ model.fields, field.name ≠ "") :
    model.IsFormable := fun _ => named

namespace Mapper

open Source

namespace Subject

def ofModel (settings : Settings) (mapping : TypeMapping) (width : Nat) (supportName : String)
    (model : Model) : Subject where
  entity := model.name
  support := supportName
  resultMap := model.name ++ settings.resultMapSuffix
  indent := Text.repeated width ' '
  columns := model.columns mapping

theorem key?_ofModel (settings : Settings) (mapping : TypeMapping) (width : Nat)
    (supportName : String) (model : Model) :
    (ofModel settings mapping width supportName model).key? =
      model.identity?.map (Column.ofField mapping) := by
  simp only [key?, ofModel, Model.columns, Model.identity?, List.find?_map]
  rfl

def getterOf (field : String) : String := rowParameter ++ "::get" ++ Naming.accessorName field

def setLineOf (subject : Subject) (column : Column) : String :=
  subject.indent ++ ".set(" ++ subject.columnConstant column.fieldName ++
    ").equalToWhenPresent(" ++ getterOf column.fieldName ++ ")"

def whereLineOf (subject : Subject) (key : Column) : String :=
  subject.indent ++ ".where(" ++ subject.columnConstant key.fieldName ++
    ", SqlBuilder.isEqualTo(" ++ getterOf key.fieldName ++ "))"

def updateOf (subject : Subject) (key : Column) : Operation where
  name := "updateByPrimaryKey"
  returnType := "int"
  parameters := [(subject.entity, rowParameter)]
  body := "return update(c -> c" ::
    (subject.columns.filter fun column => !column.primaryKey).map subject.setLineOf ++
      [subject.whereLineOf key, ");"]
  imports := [sqlBuilder]

def keyOperationsOf (subject : Subject) (key : Column) (keyType : String) : List Operation :=
  [subject.findById keyType, subject.updateOf key, subject.deleteByPrimaryKey key keyType,
    subject.updateWith, subject.deleteWith]

theorem getter_eq {field : String} (named : field ≠ "") : getter field = .ok (getterOf field) := by
  simp [getter, Naming.withFirst, named, bind, Except.bind, getterOf]

theorem setLine_eq {subject : Subject} {column : Column} (named : column.fieldName ≠ "") :
    subject.setLine column = .ok (subject.setLineOf column) := by
  simp [setLine, getter_eq named, bind, Except.bind, setLineOf]

theorem keyOperations_eq {subject : Subject} {key : Column} (keyType : String)
    (keyNamed : key.fieldName ≠ "") (named : ∀ column ∈ subject.columns, column.fieldName ≠ "") :
    subject.keyOperations key keyType = .ok (subject.keyOperationsOf key keyType) := by
  have sets : (subject.columns.filter fun column => !column.primaryKey).mapM subject.setLine =
      .ok ((subject.columns.filter fun column => !column.primaryKey).map subject.setLineOf) :=
    Outcome.mapM_eq_ok_map fun column member =>
      setLine_eq (named column (List.mem_filter.mp member).1)
  simp only [keyOperations, updateByPrimaryKey, sets, getter_eq keyNamed, bind, Except.bind]
  rfl

theorem keyOperations_unnamed {subject : Subject} {column : Column} (key : Column)
    (keyType : String) (inside : column ∈ subject.columns) (other : column.primaryKey = false)
    (unnamed : column.fieldName = "") : subject.keyOperations key keyType = .error .empty := by
  have sets : (subject.columns.filter fun column => !column.primaryKey).mapM subject.setLine =
      .error .empty := by
    cases formed : (subject.columns.filter fun column => !column.primaryKey).mapM
        subject.setLine with
    | ok lines =>
      obtain ⟨line, made⟩ :=
        Outcome.ok_of_mapM_ok formed column (List.mem_filter.mpr ⟨inside, by simp [other]⟩)
      simp [setLine, getter, Naming.withFirst, unnamed, bind, Except.bind] at made
    | error error => cases error; rfl
  simp [keyOperations, updateByPrimaryKey, sets, bind, Except.bind]

end Subject

def keyReferences (model : Model) (subject : Subject) (key : Column) : References :=
  resolve [key.valueType] model.package (reservedForKey model subject.commonOperations)

def keyTypeOf (model : Model) (subject : Subject) (key : Column) : String :=
  ((keyReferences model subject key).written.lookup key.valueType).getD key.valueType

def keyedOperations (model : Model) (subject : Subject) : List Operation :=
  match subject.key? with
  | none => []
  | some key => subject.keyOperationsOf key (keyTypeOf model subject key)

def keyImports (model : Model) (subject : Subject) : List String :=
  match subject.key? with
  | none => []
  | some key => (keyReferences model subject key).imports

theorem operationsOf_eq (model : Model) {subject : Subject}
    (named : subject.key?.isSome = true → ∀ column ∈ subject.columns, column.fieldName ≠ "") :
    operationsOf model subject =
      .ok (subject.commonOperations ++ keyedOperations model subject,
        keyImports model subject) := by
  unfold operationsOf keyedOperations keyImports
  cases found : subject.key? with
  | none => simp
  | some key =>
    have named := named (by simp [found])
    have keyNamed := named key (List.mem_of_find?_eq_some found)
    dsimp only
    rw [Subject.keyOperations_eq _ keyNamed named]
    rfl

def Interface.of (settings : Settings) (mapping : TypeMapping) (width : Nat) (supportName : String)
    (model : Model) : Interface :=
  let subject := Subject.ofModel settings mapping width supportName model
  { name := model.name ++ settings.mapperSuffix
    package := model.package
    entityName := model.name
    supportName
    resultMap := subject.resultMap
    columns := model.columns mapping
    operations := subject.commonOperations ++ keyedOperations model subject
    superInterfaces := (commonInterfaces model.name).map Prod.fst
    imports := ascending
      (fixedImports model.name ++
        (subject.commonOperations ++ keyedOperations model subject).flatMap Operation.imports ++
          keyImports model subject) }

section Forming

variable (settings : Settings) (mapping : TypeMapping) (width : Nat) (supportName : String)
  {model : Model}

theorem Interface.ofModel_eq_of_formable (formable : model.IsFormable) :
    ofModel settings mapping width supportName model =
      .ok (Interface.of settings mapping width supportName model) := by
  have columns : (Subject.ofModel settings mapping width supportName model).key?.isSome = true →
      ∀ column ∈ (Subject.ofModel settings mapping width supportName model).columns,
        column.fieldName ≠ "" := by
    intro keyed column member
    rw [Subject.key?_ofModel, Option.isSome_map] at keyed
    obtain ⟨field, inside, rfl⟩ := List.mem_map.mp member
    exact formable keyed field inside
  have operations := operationsOf_eq model columns
  unfold ofModel
  dsimp only
  change operationsOf model (Subject.ofModel settings mapping width supportName model) >>= _ = _
  rw [operations]
  rfl

theorem Interface.ofModel_eq (named : ∀ field ∈ model.fields, field.name ≠ "") :
    ofModel settings mapping width supportName model =
      .ok (Interface.of settings mapping width supportName model) :=
  ofModel_eq_of_formable settings mapping width supportName (.of_named named)

/-- A key beside a field without a name: the mapper cannot be formed. -/
theorem Interface.ofModel_eq_of_unformable (unformable : ¬model.IsFormable) :
    ofModel settings mapping width supportName model = .error .empty := by
  simp only [Model.IsFormable, Classical.not_imp, not_forall, not_not] at unformable
  obtain ⟨keyed, field, inside, unnamed⟩ := unformable
  obtain ⟨key, found⟩ := Option.isSome_iff_exists.mp keyed
  -- The field is not the key, which has a name, so it has a line in the update.
  have other : (Column.ofField mapping field).primaryKey = false := by
    simp [Column.ofField, Field.isIdentity, unnamed, identityName]
  have failed (keyType : String) :
      (Subject.ofModel settings mapping width supportName model).keyOperations
        (Column.ofField mapping key) keyType = .error .empty :=
    Subject.keyOperations_unnamed _ keyType (List.mem_map_of_mem inside) other unnamed
  unfold ofModel
  dsimp only
  change operationsOf model (Subject.ofModel settings mapping width supportName model) >>= _ = _
  simp only [operationsOf, Subject.key?_ofModel, found, Option.map_some, failed, bind, Except.bind]

end Forming

theorem names_commonOperations (subject : Subject) :
    subject.commonOperations.map Operation.name =
      ["insert", "selectOne", "selectMany", "selectOne", "selectMany", "findAll"] := rfl

theorem names_keyedOperations (model : Model) (subject : Subject) :
    ∀ operation ∈ keyedOperations model subject, operation.name ∈
      ["findById", "updateByPrimaryKey", "deleteByPrimaryKey", "update", "delete"] := by
  unfold keyedOperations
  cases subject.key? with
  | none => simp
  | some key =>
    intro operation member
    exact List.mem_map_of_mem (f := Operation.name) member

section Overloads

variable (settings : Settings) (mapping : TypeMapping) (width : Nat) (supportName : String)
  (model : Model) {name : String}

theorem overloads_of_keyless (keyless : name ∉
      ["findById", "updateByPrimaryKey", "deleteByPrimaryKey", "update", "delete"]) :
    (Interface.of settings mapping width supportName model).overloads name =
      (Subject.ofModel settings mapping width supportName model).commonOperations.filter
        fun operation => operation.name == name := by
  have others : (keyedOperations model
      (Subject.ofModel settings mapping width supportName model)).filter
        (fun operation => operation.name == name) = [] := by
    refine List.filter_eq_nil_iff.mpr fun operation member same => keyless ?_
    rw [← beq_iff_eq.mp same]
    exact names_keyedOperations model _ operation member
  simp only [Interface.overloads, Interface.of, List.filter_append, others, List.append_nil]

theorem overloads_of_keyed (keyed : name ∉ ["insert", "selectOne", "selectMany", "findAll"]) :
    (Interface.of settings mapping width supportName model).overloads name =
      (keyedOperations model
        (Subject.ofModel settings mapping width supportName model)).filter
          fun operation => operation.name == name := by
  have others : (Subject.ofModel settings mapping width supportName model).commonOperations.filter
      (fun operation => operation.name == name) = [] := by
    refine List.filter_eq_nil_iff.mpr fun operation member same => keyed ?_
    have known := List.mem_map_of_mem (f := Operation.name) member
    rw [names_commonOperations, beq_iff_eq.mp same] at known
    grind
  simp only [Interface.overloads, Interface.of, List.filter_append, others, List.nil_append]

end Overloads

end Mapper

end SqlScaffold
