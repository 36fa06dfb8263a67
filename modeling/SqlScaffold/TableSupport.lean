import SqlScaffold.Model
import SqlScaffold.Settings.Check
import SqlScaffold.Source.TypeName

/-!
Table supports: the description of the table of a model from which a class with one constant a
column is generated. The nested table class is named after the entity, so no imported type may be
written by that name.
-/

namespace SqlScaffold

open Source

structure TableSupport where
  name : String
  package : String
  entityName : String
  tableName : String
  instanceName : String
  columns : List Column
  imports : List String
  written : List (String × String)
  deriving DecidableEq, Repr

namespace TableSupport

def tableImport : String := "org.mybatis.dynamic.sql.AliasableSqlTable"

def fixedImports (columns : List Column) : List String :=
  if columns.isEmpty then [tableImport]
  else ["java.sql.JDBCType", tableImport, "org.mybatis.dynamic.sql.SqlColumn"]

def nameOf (settings : Settings) (model : Model) : String := model.name ++ settings.supportSuffix

def ofModel (settings : Settings) (mapping : TypeMapping) (model : Model) : TableSupport :=
  let columns := model.columns mapping
  let fixed := fixedImports columns
  let references :=
    resolve (columns.map Column.valueType) model.package (fixed ++ [model.qualifiedName])
  { name := nameOf settings model
    package := model.package
    entityName := model.name
    tableName := model.tableName
    instanceName := Naming.instanceName model.name
    columns
    imports := ascending (fixed ++ references.imports)
    written := references.written }

def writtenType (support : TableSupport) (typeName : String) : String :=
  (support.written.lookup typeName).getD (simpleName typeName)

def column? (support : TableSupport) (fieldName : String) : Option Column :=
  support.columns.find? fun column => column.fieldName == fieldName

def columnEntries (support : TableSupport) (column : Column) : Entries :=
  [("name", .text column.fieldName), ("column_name", .text column.columnName),
    ("jdbc_type", .text column.storage.name),
    ("value_type", .text (support.writtenType column.valueType))]

def entries (support : TableSupport) : Entries :=
  [("name", .text support.name), ("package", .text support.package),
    ("entity_name", .text support.entityName), ("table_name", .text support.tableName),
    ("instance_name", .text support.instanceName),
    ("imports", .list (support.imports.map .text)),
    ("columns", .list (support.columns.map fun column => .object (support.columnEntries column)))]

@[simp] theorem columns_ofModel (settings : Settings) (mapping : TypeMapping) (model : Model) :
    (ofModel settings mapping model).columns = model.columns mapping := rfl

end TableSupport

end SqlScaffold
