import SqlScaffold.Text.Blank
import SqlScaffold.Value

/-!
Annotations of the attributes of a model class and the declared types they stand for. An
annotation is a plain value, a class, or one of the forms that put types together. A text on its
own names a declared type; inside another annotation it is a reference that nobody follows. How an
annotation is spelled is told under the same assumption as the spelling of values.
-/

namespace SqlScaffold.Scan

open Text

structure ClassName where
  module : String
  name : String
  deriving DecidableEq, Repr

def formModule : String := "typing"

inductive TypeHint where
  | literal (value : Value)
  /-- A value that is known by its name and by the kind of value it is. -/
  | constant (name kind : String)
  | type (named : ClassName)
  | form (name : String)
  /-- A text inside another annotation. -/
  | forward (text : String)
  | union (members : List TypeHint) (piped : Bool)
  | formed (name : String) (arguments : List TypeHint)
  | applied (origin : ClassName) (arguments : List TypeHint)
  | callable (parameters : List TypeHint) (result : TypeHint)
  | remarked (hint : TypeHint) (remarks : List TypeHint)
  deriving Inhabited

namespace TypeHint

def builtin (name : String) : TypeHint := .type ⟨"builtins", name⟩

def noneType : TypeHint := builtin "NoneType"

def isNoneType : TypeHint → Bool
  | .type named => named == ⟨"builtins", "NoneType"⟩
  | _ => false

def ellipsis : TypeHint := .constant "Ellipsis" "ellipsis"

def literalForm : String := "Literal"

def valueKind : TypeHint → String
  | .literal value => value.kind
  | _ => ""

mutual

/-- Equality of annotations. Unions are equal that have the same members, and so are lists of
values if these also agree in kind. -/
def same : TypeHint → TypeHint → Bool
  | .literal left, .literal right => left.same right
  | .constant left _, .constant right _ => left == right
  | .type left, .type right => left == right
  | .form left, .form right => left == right
  | .forward left, .forward right => left == right
  | .union left _, .union right _ => within false left right && right.all (covered false left)
  | .formed name left, .formed other right =>
    name == other &&
      if name = literalForm then within true left right && right.all (covered true left)
      else sameAll left right
  | .applied origin left, .applied other right => origin == other && sameAll left right
  | .callable left result, .callable right other => sameAll left right && same result other
  | .remarked left remarks, .remarked right others => same left right && sameAll remarks others
  | _, _ => false

def sameAll : List TypeHint → List TypeHint → Bool
  | [], [] => true
  | left :: lefts, right :: rights => same left right && sameAll lefts rights
  | _, _ => false

def within (kinds : Bool) : List TypeHint → List TypeHint → Bool
  | [], _ => true
  | left :: lefts, rights =>
    (rights.any fun right => same left right && (!kinds || left.valueKind == right.valueKind)) &&
      within kinds lefts rights

def covered (kinds : Bool) : List TypeHint → TypeHint → Bool
  | [], _ => false
  | left :: lefts, right =>
    (same left right && (!kinds || left.valueKind == right.valueKind)) ||
      covered kinds lefts right

end

def removeRepeats (equal : TypeHint → TypeHint → Bool) (seen : List TypeHint) :
    List TypeHint → List TypeHint
  | [] => []
  | head :: rest =>
    if seen.any fun other => equal other head then removeRepeats equal seen rest
    else head :: removeRepeats equal (head :: seen) rest

inductive Place where
  | alone
  | argument
  | member
  deriving DecidableEq, Repr

def functionKind : String := "builtin_function_or_method"

def variableKind : String := "TypeVar"

def plainFunctionKind : String := "function"

def spelledConstant (name kind : String) (place : Place) : String :=
  if name = "Ellipsis" ∧ place ≠ .alone then "..."
  else if kind = functionKind ∧ place ≠ .member then "<built-in function " ++ name ++ ">"
  else if kind = plainFunctionKind ∧ place = .member then formModule ++ "." ++ name
  else if kind = variableKind then "~" ++ name
  else name

def qualified (named : ClassName) : String :=
  if named.module = "builtins" then named.name else named.module ++ "." ++ named.name

def anyType : ClassName := ⟨formModule, "Any"⟩

def spelledType (named : ClassName) (place : Place) : String :=
  if place = .alone ∧ named ≠ anyType then "<class '" ++ qualified named ++ "'>"
  else qualified named

def areOpen : List TypeHint → Bool
  | [.constant name _] => name == "Ellipsis"
  | [.literal (.list _)] => true
  | _ => false

mutual

def spelled (place : Place) : TypeHint → String
  | .literal value => value.quoted
  | .constant name kind => spelledConstant name kind place
  | .type named => spelledType named place
  | .form name => "typing." ++ name
  | .forward text => "ForwardRef(" ++ Text.quoted text ++ ")"
  | .union members piped =>
    if piped then joinWith " | " (spelledBeside members)
    else
      match members with
      | [first, second] =>
        if first.isNoneType then "typing.Optional[" ++ spelled .argument second ++ "]"
        else if second.isNoneType then "typing.Optional[" ++ spelled .argument first ++ "]"
        else
          "typing.Union[" ++ spelled .argument first ++ ", " ++ spelled .argument second ++ "]"
      | members => "typing.Union[" ++ joinWith ", " (spelledAll .argument members) ++ "]"
  | .formed name arguments =>
    match name, arguments with
    | "Unpack", [single] => "*" ++ spelled .alone single
    | _, [] => "typing." ++ name ++ "[()]"
    | _, arguments => "typing." ++ name ++ "[" ++ joinWith ", " (spelledAll .argument arguments) ++ "]"
  | .applied origin arguments =>
    let written :=
      if arguments.isEmpty then "()" else joinWith ", " (spelledAll .member arguments)
    qualified origin ++ "[" ++ written ++ "]"
  | .callable parameters result =>
    let written := joinWith ", " (spelledAll .argument parameters)
    let listed := if areOpen parameters then written else "[" ++ written ++ "]"
    "typing.Callable[" ++ listed ++ ", " ++ spelled .argument result ++ "]"
  | .remarked hint remarks =>
    "typing.Annotated[" ++ joinWith ", " (spelled .argument hint :: spelledAll .alone remarks) ++ "]"

def spelledAll (place : Place) : List TypeHint → List String
  | [] => []
  | first :: rest => spelled place first :: spelledAll place rest

def spelledBeside : List TypeHint → List String
  | [] => []
  | first :: rest =>
    (if first.isNoneType then "None" else spelled .member first) :: spelledBeside rest

end

def quoted (hint : TypeHint) : String := hint.spelled .alone

def staticForm : String := "ClassVar"

/-- The mark of a static member, with or without its type, also as a text that starts with it. -/
def isStatic : TypeHint → Bool
  | .form name => name == staticForm
  | .formed name _ => name == staticForm
  | .literal (.text name) =>
    startsWith "ClassVar" (trim name) || startsWith "typing.ClassVar" (trim name)
  | _ => false

structure UnhashableValue where
  kind : String
  deriving DecidableEq, Repr

def UnhashableValue.message (value : UnhashableValue) : String :=
  "unhashable type: '" ++ value.kind ++ "'"

mutual

def unhashable? : TypeHint → Option UnhashableValue
  | .literal value =>
    match value with
    | .list _ | .object _ => some ⟨value.kind⟩
    | _ => none
  | .union members _ => unhashableAmong? members
  | .formed _ arguments => unhashableAmong? arguments
  | .applied _ arguments => unhashableAmong? arguments
  | .callable parameters result => (unhashableAmong? parameters).or (unhashable? result)
  | .remarked hint remarks => (unhashable? hint).or (unhashableAmong? remarks)
  | _ => none

def unhashableAmong? : List TypeHint → Option UnhashableValue
  | [] => none
  | first :: rest => (unhashable? first).or (unhashableAmong? rest)

end

def typeless (hint : TypeHint) : Except UnhashableValue (Option String) :=
  match hint.unhashable? with
  | some value => .error value
  | none => .ok none

def declaredTypes : List (ClassName × String) :=
  [(⟨"builtins", "str"⟩, "String"), (⟨"builtins", "int"⟩, "Integer"),
    (⟨"builtins", "bool"⟩, "Boolean"), (⟨"builtins", "float"⟩, "Double"),
    (⟨"datetime", "datetime"⟩, "LocalDateTime"), (⟨"datetime", "date"⟩, "java.time.LocalDate"),
    (⟨"decimal", "Decimal"⟩, "java.math.BigDecimal")]

def declaredName (named : ClassName) : String := (declaredTypes.lookup named).getD named.name

def genericClass : ClassName := ⟨formModule, "Generic"⟩

mutual

/-- The declared type that an annotation stands for, if there is one. Beside the type of `None`
there has to be exactly one other member, and that one counts. -/
def typeName? : TypeHint → Except UnhashableValue (Option String)
  | .literal (.text name) => .ok (if trim name = "" then none else some (trim name))
  | .type named => .ok (if named = genericClass then none else some (declaredName named))
  | .union members piped =>
    if members.any isNoneType then soleTypeName? members
    else typeless (.union members piped)
  | .formed name arguments =>
    if arguments.any isNoneType then soleTypeName? arguments
    else typeless (.formed name arguments)
  | .applied origin arguments =>
    if arguments.any isNoneType then soleTypeName? arguments
    else typeless (.applied origin arguments)
  | .callable parameters result =>
    if result.isNoneType then
      if areOpen parameters then soleTypeName? parameters else .error ⟨"list"⟩
    else typeless (.callable parameters result)
  | .remarked hint remarks =>
    if hint.isNoneType then soleTypeName? remarks
    else if remarks.any isNoneType then
      if remarks.all isNoneType then typeName? hint else .ok none
    else typeless (.remarked hint remarks)
  | other => typeless other

def soleTypeName? : List TypeHint → Except UnhashableValue (Option String)
  | [] => .ok none
  | first :: rest =>
    if first.isNoneType then soleTypeName? rest
    else if rest.all isNoneType then typeName? first
    else .ok none

end

end TypeHint

end SqlScaffold.Scan
