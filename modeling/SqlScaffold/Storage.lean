import SqlScaffold.Text.Case
import SqlScaffold.Text.Blank
import SqlScaffold.Value

/-!
Declared types and how their values are stored. A declared type belongs to a category, a category
has a storage type, and overrides by declared type name come before both.
-/

namespace SqlScaffold

open Text

inductive Category where
  | string
  | integer
  | long
  | boolean
  | float
  | double
  | timestamp
  | other
  deriving DecidableEq, Repr

def Category.name : Category → String
  | string => "string"
  | integer => "integer"
  | long => "long"
  | boolean => "boolean"
  | float => "float"
  | double => "double"
  | timestamp => "timestamp"
  | other => "other"

def declaredCategories : List (String × Category) :=
  [("String", .string), ("java.lang.String", .string),
    ("int", .integer), ("Integer", .integer), ("java.lang.Integer", .integer),
    ("long", .long), ("Long", .long), ("java.lang.Long", .long),
    ("boolean", .boolean), ("Boolean", .boolean), ("java.lang.Boolean", .boolean),
    ("float", .float), ("Float", .float), ("java.lang.Float", .float),
    ("double", .double), ("Double", .double), ("java.lang.Double", .double),
    ("LocalDateTime", .timestamp), ("java.time.LocalDateTime", .timestamp)]

/-- Blanks around a declared type do not count. -/
def Category.ofDeclared (typeName : String) : Category :=
  (declaredCategories.lookup (trim typeName)).getD .other

inductive StorageType where
  | varchar
  | integer
  | timestamp
  | boolean
  | bigint
  | double
  | float
  | smallint
  | tinyint
  | decimal
  | numeric
  | date
  | time
  | char
  | clob
  | blob
  | binary
  deriving DecidableEq, Repr

def StorageType.name : StorageType → String
  | varchar => "VARCHAR"
  | integer => "INTEGER"
  | timestamp => "TIMESTAMP"
  | boolean => "BOOLEAN"
  | bigint => "BIGINT"
  | double => "DOUBLE"
  | float => "FLOAT"
  | smallint => "SMALLINT"
  | tinyint => "TINYINT"
  | decimal => "DECIMAL"
  | numeric => "NUMERIC"
  | date => "DATE"
  | time => "TIME"
  | char => "CHAR"
  | clob => "CLOB"
  | blob => "BLOB"
  | binary => "BINARY"

def StorageType.all : List StorageType :=
  [varchar, integer, timestamp, boolean, bigint, double, float, smallint, tinyint, decimal,
    numeric, date, time, char, clob, blob, binary]

theorem StorageType.mem_all (storage : StorageType) : storage ∈ StorageType.all := by
  cases storage <;> decide

def StorageType.ofName? (name : String) : Option StorageType :=
  StorageType.all.find? fun storage => storage.name == upper name

theorem StorageType.ofName?_name (storage : StorageType) :
    StorageType.ofName? storage.name = some storage := by
  cases storage <;> decide +kernel

def Category.storage : Category → StorageType
  | string => .varchar
  | integer => .integer
  | timestamp => .timestamp
  | boolean => .boolean
  | long => .bigint
  | double => .double
  | float => .float
  | other => .varchar

structure UnknownStorage where
  given : String
  declared : String
  deriving DecidableEq, Repr

def UnknownStorage.message (error : UnknownStorage) : String :=
  "Unknown logical type '" ++ error.given ++ "' for " ++ error.declared

structure TypeMapping where
  overrides : List (String × StorageType)
  deriving DecidableEq, Repr

def TypeMapping.ofOverrides : Entries → Except UnknownStorage TypeMapping
  | [] => .ok ⟨[]⟩
  | (declared, given) :: rest =>
    match StorageType.ofName? given.shown with
    | none => .error ⟨given.shown, declared⟩
    | some storage => do
      let mapping ← TypeMapping.ofOverrides rest
      .ok ⟨(declared, storage) :: mapping.overrides⟩

def TypeMapping.storage (mapping : TypeMapping) (typeName : String) : StorageType :=
  (mapping.overrides.lookup typeName).getD (Category.ofDeclared typeName).storage

def primitiveBoxes : List (String × String) :=
  [("int", "Integer"), ("boolean", "Boolean"), ("long", "Long"), ("double", "Double"),
    ("float", "Float")]

def boxedType (typeName : String) : String := (primitiveBoxes.lookup typeName).getD typeName

end SqlScaffold
