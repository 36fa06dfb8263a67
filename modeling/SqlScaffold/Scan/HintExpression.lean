import SqlScaffold.Scan.HintForm

/-!
Annotations as they are written: names, plain values, names with arguments, and parts between
bars. What a name means depends on where the class is written, so a lookup comes with them.
-/

namespace SqlScaffold.Scan

inductive HintExpression where
  | name (text : String)
  | literal (value : Value)
  | apply (origin : String) (arguments : List HintExpression)
  | bars (first : HintExpression) (rest : List HintExpression)
  deriving Inhabited

abbrev HintLookup := String → Except HintError TypeHint

namespace HintExpression

mutual

def evaluate (lookup : HintLookup) : HintExpression → Hinted
  | .name text => lookup text
  | .literal value => .ok (.literal value)
  | .apply origin arguments => do
    let origin ← lookup origin
    let arguments ← evaluateAll lookup arguments
    origin.apply arguments
  | .bars first rest => do
    let first ← evaluate lookup first
    evaluateBars lookup first rest

def evaluateAll (lookup : HintLookup) : List HintExpression → Except HintError (List TypeHint)
  | [] => .ok []
  | first :: rest => do
    let hint ← evaluate lookup first
    let hints ← evaluateAll lookup rest
    .ok (hint :: hints)

def evaluateBars (lookup : HintLookup) (left : TypeHint) : List HintExpression → Hinted
  | [] => .ok left
  | part :: rest => do
    let right ← evaluate lookup part
    let joined ← left.bar right
    evaluateBars lookup joined rest

end

end HintExpression

def builtinClasses : List String :=
  ["ArithmeticError", "AssertionError", "AttributeError", "BaseException", "BaseExceptionGroup",
    "BlockingIOError", "BrokenPipeError", "BufferError", "BytesWarning", "ChildProcessError",
    "ConnectionAbortedError", "ConnectionError", "ConnectionRefusedError", "ConnectionResetError",
    "DeprecationWarning", "EOFError", "EncodingWarning", "Exception", "ExceptionGroup",
    "FileExistsError", "FileNotFoundError", "FloatingPointError", "FutureWarning",
    "GeneratorExit", "ImportError", "ImportWarning", "IndentationError", "IndexError",
    "InterruptedError", "IsADirectoryError", "KeyError", "KeyboardInterrupt", "LookupError",
    "MemoryError", "ModuleNotFoundError", "NameError", "NotADirectoryError",
    "NotImplementedError", "OSError", "OverflowError", "PendingDeprecationWarning",
    "PermissionError", "ProcessLookupError", "RecursionError", "ReferenceError",
    "ResourceWarning", "RuntimeError", "RuntimeWarning", "StopAsyncIteration", "StopIteration",
    "SyntaxError", "SyntaxWarning", "SystemError", "SystemExit", "TabError", "TimeoutError",
    "TypeError", "UnboundLocalError", "UnicodeDecodeError", "UnicodeEncodeError", "UnicodeError",
    "UnicodeTranslateError", "UnicodeWarning", "UserWarning", "ValueError", "Warning",
    "ZeroDivisionError", "bool", "bytearray", "bytes", "classmethod", "complex", "dict",
    "enumerate", "filter", "float", "frozenset", "int", "list", "map", "memoryview", "object",
    "property", "range", "reversed", "set", "slice", "staticmethod", "str", "super", "tuple",
    "type", "zip"]

def builtinFunctions : List String :=
  ["abs", "aiter", "all", "anext", "any", "ascii", "bin", "breakpoint", "callable", "chr",
    "compile", "delattr", "dir", "divmod", "eval", "exec", "format", "getattr", "globals",
    "hasattr", "hash", "hex", "id", "input", "isinstance", "issubclass", "iter", "len", "locals",
    "max", "min", "next", "oct", "open", "ord", "pow", "print", "repr", "round", "setattr",
    "sorted", "sum", "vars"]

def builtinValues : List (String × TypeHint) :=
  [("None", .literal .null), ("True", .literal (.bool true)), ("False", .literal (.bool false)),
    ("Ellipsis", .ellipsis), ("NotImplemented", .constant "NotImplemented" "NotImplementedType"),
    ("EnvironmentError", .builtin "OSError"), ("IOError", .builtin "OSError")]

def builtinNames : List (String × TypeHint) :=
  builtinValues ++ builtinClasses.map (fun name => (name, .builtin name)) ++
    builtinFunctions.map fun name => (name, .constant name TypeHint.functionKind)

def importedNames : List (String × TypeHint) :=
  [("datetime", "datetime"), ("datetime", "date"), ("datetime", "time"), ("decimal", "Decimal"),
    ("uuid", "UUID"), ("collections", "OrderedDict")].map fun (module, name) =>
    (name, .type ⟨module, name⟩)

def formClasses : List String :=
  ["Annotated", "Any", "BinaryIO", "ForwardRef", "Generic", "IO", "NewType", "ParamSpec",
    "ParamSpecArgs", "ParamSpecKwargs", "Protocol", "SupportsAbs", "SupportsBytes",
    "SupportsComplex", "SupportsFloat", "SupportsIndex", "SupportsInt", "SupportsRound",
    "TextIO", "TypeVar", "TypeVarTuple"]

def formFunctions : List String :=
  ["NamedTuple", "TypedDict", "assert_never", "assert_type", "cast", "clear_overloads",
    "dataclass_transform", "final", "get_args", "get_origin", "get_overloads", "get_type_hints",
    "is_typeddict", "no_type_check", "no_type_check_decorator", "overload", "reveal_type",
    "runtime_checkable"]

def formNames : List (String × TypeHint) :=
  (TypeHint.closedForms ++ TypeHint.specialForms ++ TypeHint.variadicForms ++
      TypeHint.genericForms.map Prod.fst).map (fun name => (name, .form name)) ++
    formClasses.map (fun name => (name, .type ⟨formModule, name⟩)) ++
    formFunctions.map (fun name => (name, .constant name TypeHint.plainFunctionKind)) ++
    [("Text", .builtin "str"), ("AnyStr", .constant "AnyStr" TypeHint.variableKind),
      ("TYPE_CHECKING", .literal (.bool false))]

def knownName : HintLookup := fun name =>
  match (importedNames ++ builtinNames).lookup name with
  | some hint => .ok hint
  | none =>
    let start := formModule ++ "."
    if Text.startsWith start name then
      let member := String.ofList (name.toList.drop start.length)
      match formNames.lookup member with
      | some hint => .ok hint
      | none => .error (.noMember ("module " ++ Text.quoted formModule) member)
    else .error (.unbound name)

end SqlScaffold.Scan
