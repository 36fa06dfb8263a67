import SqlScaffold.Model
import SqlScaffold.Source.TypeName
import SqlScaffold.Text.Lines

/-!
Operations of a mapper interface. Six operations come with every model; five more work on the key
and come only with a model that has one.
-/

namespace SqlScaffold.Mapper

open Text

def utilities : String := "org.mybatis.dynamic.sql.util.mybatis3.MyBatis3Utils"
def sqlBuilder : String := "org.mybatis.dynamic.sql.SqlBuilder"
def selectCompleter : String := "org.mybatis.dynamic.sql.select.SelectDSLCompleter"
def selectProvider : String := "org.apache.ibatis.annotations.SelectProvider"
def providerAdapter : String := "org.mybatis.dynamic.sql.util.SqlProviderAdapter"
def selectStatement : String := "org.mybatis.dynamic.sql.select.render.SelectStatementProvider"
def updateCompleter : String := "org.mybatis.dynamic.sql.update.UpdateDSLCompleter"
def deleteCompleter : String := "org.mybatis.dynamic.sql.delete.DeleteDSLCompleter"
def basicColumn : String := "org.mybatis.dynamic.sql.BasicColumn"
def optionalType : String := "java.util.Optional"
def listType : String := "java.util.List"

structure Operation where
  name : String
  returnType : String
  parameters : List (String × String) := []
  body : List String := []
  annotations : List String := []
  legacy : Bool := false
  imports : List String := []
  deriving DecidableEq, Repr

namespace Operation

def isDefault (operation : Operation) : Bool := !operation.body.isEmpty

def signature (operation : Operation) : String :=
  let parameters := operation.parameters.map fun parameter => parameter.1 ++ " " ++ parameter.2
  operation.returnType ++ " " ++ operation.name ++ "(" ++ joinWith ", " parameters ++ ")"

end Operation

structure Subject where
  entity : String
  support : String
  resultMap : String
  indent : String
  columns : List Column
  deriving DecidableEq, Repr

namespace Subject

def rowParameter : String := "row"

def keyParameter : String := "recordId"

def table (subject : Subject) : String :=
  subject.support ++ "." ++ Naming.instanceName subject.entity

def columnConstant (subject : Subject) (field : String) : String := subject.support ++ "." ++ field

def key? (subject : Subject) : Option Column := subject.columns.find? Column.primaryKey

def insert (subject : Subject) : Operation where
  name := "insert"
  returnType := "int"
  parameters := [(subject.entity, rowParameter)]
  body :=
    ("return MyBatis3Utils.insert(this::insert, " ++ rowParameter ++ ", " ++ subject.table ++
      ", c -> c") ::
    subject.columns.map (fun column =>
      subject.indent ++ ".map(" ++ subject.columnConstant column.fieldName ++
        ").toProperty(\"" ++ column.fieldName ++ "\")") ++ [");"]
  imports := [utilities]

def resultEntry (subject : Subject) (column : Column) : String :=
  subject.indent ++ "@Result(column = \"" ++ column.columnName ++ "\", property = \"" ++
    column.fieldName ++ "\", jdbcType = JdbcType." ++ column.storage.name ++
    (if column.primaryKey then ", id = true)" else ")")

def resultsMark (subject : Subject) : String :=
  let opening := "@Results(id = \"" ++ subject.resultMap ++ "\", value = \x7b"
  if subject.columns.isEmpty then opening ++ "\x7d)"
  else
    opening ++ "\n" ++ joinWith ",\n" (subject.columns.map subject.resultEntry) ++ "\n\x7d)"

def selectMark : String :=
  "@SelectProvider(type = SqlProviderAdapter.class, method = \"select\")"

def statementParameters : List (String × String) := [("SelectStatementProvider", "selectStatement")]

def selectOneStatement (subject : Subject) : Operation where
  name := "selectOne"
  returnType := "Optional<" ++ subject.entity ++ ">"
  parameters := statementParameters
  annotations := [selectMark, subject.resultsMark]
  legacy := true
  imports :=
    [optionalType, selectProvider, providerAdapter, selectStatement,
      "org.apache.ibatis.annotations.Results"] ++
    if subject.columns.isEmpty then []
    else ["org.apache.ibatis.annotations.Result", "org.apache.ibatis.type.JdbcType"]

def selectManyStatement (subject : Subject) : Operation where
  name := "selectMany"
  returnType := "List<" ++ subject.entity ++ ">"
  parameters := statementParameters
  annotations := [selectMark, "@ResultMap(\"" ++ subject.resultMap ++ "\")"]
  legacy := true
  imports :=
    [listType, selectProvider, providerAdapter, selectStatement,
      "org.apache.ibatis.annotations.ResultMap"]

def selectOneCompleter (subject : Subject) : Operation where
  name := "selectOne"
  returnType := "Optional<" ++ subject.entity ++ ">"
  parameters := [("SelectDSLCompleter", "completer")]
  body :=
    ["return MyBatis3Utils.selectOne(this::selectOne, selectList, " ++ subject.table ++
      ", completer);"]
  imports := [optionalType, utilities, selectCompleter]

def selectManyCompleter (subject : Subject) : Operation where
  name := "selectMany"
  returnType := "List<" ++ subject.entity ++ ">"
  parameters := [("SelectDSLCompleter", "completer")]
  body :=
    ["return MyBatis3Utils.selectList(this::selectMany, selectList, " ++ subject.table ++
      ", completer);"]
  imports := [listType, utilities, selectCompleter]

def findAll (subject : Subject) : Operation where
  name := "findAll"
  returnType := "List<" ++ subject.entity ++ ">"
  body := ["return selectMany(SelectDSLCompleter.allRows());"]
  imports := [listType, selectCompleter]

def commonOperations (subject : Subject) : List Operation :=
  [subject.insert, subject.selectOneStatement, subject.selectManyStatement,
    subject.selectOneCompleter, subject.selectManyCompleter, subject.findAll]

def findById (subject : Subject) (keyType : String) : Operation where
  name := "findById"
  returnType := "Optional<" ++ subject.entity ++ ">"
  parameters := [(keyType, keyParameter)]
  body :=
    ["return selectOne(c -> c.where(" ++ subject.columnConstant identityName ++
      ", SqlBuilder.isEqualTo(" ++ keyParameter ++ ")));"]
  imports := [optionalType, sqlBuilder]

def getter (field : String) : Except Naming.NameError String := do
  let accessor ← Naming.withFirst Naming.accessorName field
  .ok (rowParameter ++ "::get" ++ accessor)

def setLine (subject : Subject) (column : Column) : Except Naming.NameError String := do
  let getter ← getter column.fieldName
  .ok (subject.indent ++ ".set(" ++ subject.columnConstant column.fieldName ++
    ").equalToWhenPresent(" ++ getter ++ ")")

def updateByPrimaryKey (subject : Subject) (key : Column) :
    Except Naming.NameError Operation := do
  let others := subject.columns.filter fun column => !column.primaryKey
  let sets ← others.mapM subject.setLine
  let getter ← getter key.fieldName
  let condition := subject.indent ++ ".where(" ++ subject.columnConstant key.fieldName ++
    ", SqlBuilder.isEqualTo(" ++ getter ++ "))"
  .ok { name := "updateByPrimaryKey"
        returnType := "int"
        parameters := [(subject.entity, rowParameter)]
        body := "return update(c -> c" :: sets ++ [condition, ");"]
        imports := [sqlBuilder] }

def deleteByPrimaryKey (subject : Subject) (key : Column) (keyType : String) : Operation where
  name := "deleteByPrimaryKey"
  returnType := "int"
  parameters := [(keyType, keyParameter)]
  body :=
    ["return delete(c -> c.where(" ++ subject.columnConstant key.fieldName ++
      ", SqlBuilder.isEqualTo(" ++ keyParameter ++ ")));"]
  imports := [sqlBuilder]

def updateWith (subject : Subject) : Operation where
  name := "update"
  returnType := "int"
  parameters := [("UpdateDSLCompleter", "completer")]
  body := ["return MyBatis3Utils.update(this::update, " ++ subject.table ++ ", completer);"]
  legacy := true
  imports := [utilities, updateCompleter]

def deleteWith (subject : Subject) : Operation where
  name := "delete"
  returnType := "int"
  parameters := [("DeleteDSLCompleter", "completer")]
  body := ["return MyBatis3Utils.deleteFrom(this::delete, " ++ subject.table ++ ", completer);"]
  legacy := true
  imports := [utilities, deleteCompleter]

def keyOperations (subject : Subject) (key : Column) (keyType : String) :
    Except Naming.NameError (List Operation) := do
  let update ← subject.updateByPrimaryKey key
  .ok [subject.findById keyType, update, subject.deleteByPrimaryKey key keyType,
    subject.updateWith, subject.deleteWith]

end Subject

end SqlScaffold.Mapper
