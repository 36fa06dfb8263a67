import SqlScaffold.Naming
import SqlScaffold.Storage

/-!
Models of stored entities. A model has a name, and no two of its fields share one; the field named
`id` is its key. From a field and a type mapping comes the column that stores it.
-/

namespace SqlScaffold

open Naming

def identityName : String := "id"

structure Field where
  name : String
  typeName : String
  deriving DecidableEq, Repr

def Field.category (field : Field) : Category := Category.ofDeclared field.typeName

def Field.isIdentity (field : Field) : Bool := field.name == identityName

def qualify (package name : String) : String :=
  if package = "" then name else package ++ "." ++ name

/-- One declared entity. A missing or empty table name leaves the choice to the entity's name. -/
structure Model where
  package : String
  name : String
  fields : List Field
  table : Option String
  named : name ≠ ""
  distinct : (fields.map Field.name).Nodup

inductive ModelError where
  | unnamed
  | duplicateField (field model : String)
  deriving DecidableEq, Repr

def ModelError.message : ModelError → String
  | unnamed => "Model name must not be empty"
  | duplicateField field model => "Duplicate field '" ++ field ++ "' in model " ++ model

def firstRepeated? (seen : List String) : List String → Option String
  | [] => none
  | name :: rest => if seen.contains name then some name else firstRepeated? (name :: seen) rest

theorem nodup_of_firstRepeated? (names : List String) : ∀ seen, seen.Nodup →
    firstRepeated? seen names = none → (names ++ seen).Nodup := by
  induction names with
  | nil => intro seen unique _; exact unique
  | cons name rest ih =>
    intro seen unique found
    simp only [firstRepeated?] at found
    split at found
    · simp at found
    · next fresh =>
      have member : name ∉ seen := by simpa using fresh
      have whole := ih (name :: seen) (List.nodup_cons.mpr ⟨member, unique⟩) found
      exact (List.perm_middle.nodup_iff).mp whole

namespace Model

def make (package name : String) (fields : List Field) (table : Option String) :
    Except ModelError Model :=
  if named : name = "" then .error .unnamed
  else
    match found : firstRepeated? [] (fields.map Field.name) with
    | some field => .error (.duplicateField field name)
    | none =>
      .ok ⟨package, name, fields, table, named, by
        simpa using nodup_of_firstRepeated? _ [] List.nodup_nil found⟩

def qualifiedName (model : Model) : String := qualify model.package model.name

def identity? (model : Model) : Option Field := model.fields.find? Field.isIdentity

def hasIdentity (model : Model) : Bool := model.identity?.isSome

def field? (model : Model) (name : String) : Option Field :=
  model.fields.find? fun field => field.name == name

def tableName (model : Model) : String :=
  match model.table with
  | some table => if table = "" then defaultTableName model.name else table
  | none => defaultTableName model.name

end Model

structure Column where
  fieldName : String
  columnName : String
  storage : StorageType
  primaryKey : Bool
  valueType : String
  deriving DecidableEq, Repr

def Column.ofField (mapping : TypeMapping) (field : Field) : Column :=
  ⟨field.name, Naming.columnName field.name, mapping.storage field.typeName, field.isIdentity,
    boxedType field.typeName⟩

def Model.columns (model : Model) (mapping : TypeMapping) : List Column :=
  model.fields.map (Column.ofField mapping)

@[simp] theorem Model.columns_length (model : Model) (mapping : TypeMapping) :
    (model.columns mapping).length = model.fields.length := by
  simp [Model.columns]

end SqlScaffold
