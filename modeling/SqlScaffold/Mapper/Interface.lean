import SqlScaffold.Mapper.Operation
import SqlScaffold.Settings.Check
import SqlScaffold.TableSupport

/-!
Mapper interfaces: the operations on the rows of a model's table, the interfaces they extend and
all imports that they need. The type of a key must not be written by a name that another import of
the interface takes.
-/

namespace SqlScaffold.Mapper

open Source

structure Interface where
  name : String
  package : String
  entityName : String
  supportName : String
  resultMap : String
  columns : List Column
  operations : List Operation
  superInterfaces : List String
  imports : List String
  deriving DecidableEq, Repr

def commonInterfaces (entity : String) : List (String × String) :=
  let package := "org.mybatis.dynamic.sql.util.mybatis3."
  [("CommonCountMapper", package ++ "CommonCountMapper"),
    ("CommonInsertMapper<" ++ entity ++ ">", package ++ "CommonInsertMapper"),
    ("CommonUpdateMapper", package ++ "CommonUpdateMapper"),
    ("CommonDeleteMapper", package ++ "CommonDeleteMapper")]

def fixedImports (entity : String) : List String :=
  basicColumn :: (commonInterfaces entity).map Prod.snd

def keyOperationImports : List String :=
  [optionalType, sqlBuilder, utilities, updateCompleter, deleteCompleter]

def reservedForKey (model : Model) (operations : List Operation) : List String :=
  operations.flatMap Operation.imports ++ keyOperationImports ++ fixedImports model.name ++
    if model.package = "" then [] else [model.qualifiedName]

def operationsOf (model : Model) (subject : Subject) :
    Except Naming.NameError (List Operation × List String) :=
  let common := subject.commonOperations
  match subject.key? with
  | none => .ok (common, [])
  | some key => do
    let references := resolve [key.valueType] model.package (reservedForKey model common)
    let keyType := (references.written.lookup key.valueType).getD key.valueType
    let further ← subject.keyOperations key keyType
    .ok (common ++ further, references.imports)

namespace Interface

/-- The mapper of a model whose table support has the given name, indented by `width` blanks a
level. -/
def ofModel (settings : Settings) (mapping : TypeMapping) (width : Nat) (supportName : String)
    (model : Model) : Except Naming.NameError Interface := do
  let subject : Subject :=
    { entity := model.name
      support := supportName
      resultMap := model.name ++ settings.resultMapSuffix
      indent := Text.repeated width ' '
      columns := model.columns mapping }
  let (operations, keyImports) ← operationsOf model subject
  .ok { name := model.name ++ settings.mapperSuffix
        package := model.package
        entityName := model.name
        supportName
        resultMap := subject.resultMap
        columns := subject.columns
        operations
        superInterfaces := (commonInterfaces model.name).map Prod.fst
        imports := ascending
          (fixedImports model.name ++ operations.flatMap Operation.imports ++ keyImports) }

def hasOperation (mapper : Interface) (name : String) : Bool :=
  mapper.operations.any fun operation => operation.name == name

def overloads (mapper : Interface) (name : String) : List Operation :=
  mapper.operations.filter fun operation => operation.name == name

def selectList (mapper : Interface) : List String :=
  mapper.columns.map fun column => mapper.supportName ++ "." ++ column.fieldName

def operationEntries (operation : Operation) : Entries :=
  [("signature", .text operation.signature), ("is_default", .bool operation.isDefault),
    ("legacy", .bool operation.legacy), ("body", .list (operation.body.map .text)),
    ("annotations", .list (operation.annotations.map .text))]

def entries (mapper : Interface) : Entries :=
  [("name", .text mapper.name), ("package", .text mapper.package),
    ("imports", .list (mapper.imports.map .text)),
    ("super_interfaces", .list (mapper.superInterfaces.map .text)),
    ("select_list", .list (mapper.selectList.map .text)),
    ("operations",
      .list (mapper.operations.map fun operation => .object (operationEntries operation)))]

end Interface

end SqlScaffold.Mapper
