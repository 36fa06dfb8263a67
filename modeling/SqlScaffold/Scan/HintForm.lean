import SqlScaffold.Expression.Parse
import SqlScaffold.Scan.TypeHint

/-!
Forms of annotations and what they make of their arguments. Arguments have to be types where a
form takes types; a text among them has to be an expression and becomes a reference, and `None`
becomes its type.
-/

namespace SqlScaffold.Scan

open Text TypeHint

inductive HintError where
  | unbound (name : String)
  | noMember (owner member : String)
  | bareMember (member : String)
  | unfinished (owner member : String)
  | notArgument (hint : String)
  | plainForm (hint : String)
  | notSingle (demand given : String)
  | notExpression (text : String)
  | deepExpression
  | unwieldyExpression
  | emptyReference
  | nullReference
  | argumentCount (hint : String) (actual expected : Nat)
  | notGeneric (hint : String)
  | notSubscriptable (hint : String)
  | notVariables (name : String)
  | repeatedVariables (name : String)
  | emptyUnion
  | emptyConcatenation
  | openConcatenation
  | callableShape
  | lonelyRemark
  | noModule (kind : String)
  | unhashable (value : UnhashableValue)
  | operands (left right : String)
  deriving DecidableEq, Repr

def nameRoom : Nat := 200

def HintError.message : HintError → String
  | unbound name => "name '" ++ clipped nameRoom name ++ "' is not defined"
  | noMember owner member => owner ++ " has no attribute " ++ Text.quoted member
  | bareMember member => member
  | unfinished owner member =>
    "partially initialized " ++ owner ++ " has no attribute " ++ Text.quoted member ++
      " (most likely due to a circular import)"
  | notArgument hint => hint ++ " is not valid as type argument"
  | plainForm hint => "Plain " ++ hint ++ " is not valid as type argument"
  | notSingle demand given => demand ++ " Got " ++ given ++ "."
  | notExpression text => "Forward reference must be an expression -- got " ++ Text.quoted text
  | deepExpression => Expression.Fault.tooDeep.message
  | unwieldyExpression => Expression.Tree.depthMessage "compilation"
  | emptyReference => "string index out of range"
  | nullReference => "source code string cannot contain null bytes"
  | argumentCount hint actual expected =>
    "Too " ++ (if expected < actual then "many" else "few") ++ " arguments for " ++ hint ++
      "; actual " ++ toString actual ++ ", expected " ++ toString expected
  | notGeneric hint => hint ++ " is not a generic class"
  | notSubscriptable hint => hint ++ " is not subscriptable"
  | notVariables name =>
    "Parameters to " ++ name ++
      "[...] must all be type variables or parameter specification variables."
  | repeatedVariables name => "Parameters to " ++ name ++ "[...] must all be unique"
  | emptyUnion => "Cannot take a Union of no types."
  | emptyConcatenation => "Cannot take a Concatenate of no types."
  | openConcatenation =>
    "The last parameter to Concatenate should be a ParamSpec variable or ellipsis."
  | callableShape => "Callable must be used as Callable[[arg, ...], result]."
  | lonelyRemark =>
    "Annotated[...] should be used with at least two arguments (a type and an annotation)."
  | noModule kind => "'" ++ kind ++ "' object has no attribute '__module__'"
  | unhashable value => value.message
  | operands left right =>
    "unsupported operand type(s) for |: '" ++ left ++ "' and '" ++ right ++ "'"

abbrev Hinted := Except HintError TypeHint

namespace TypeHint

def reference (text : String) : Hinted :=
  if text = "" then .error .emptyReference
  else if text.toList.contains (Char.ofNat 0) then .error .nullReference
  else
    match Expression.referenceFault? text with
    | none => .ok (.forward text)
    | some .notExpression => .error (.notExpression text)
    | some .tooDeep => .error .deepExpression
    | some .unwieldy => .error .unwieldyExpression

def converted : TypeHint → Hinted
  | .literal .null => .ok noneType
  | .literal (.text text) => reference text
  | other => .ok other

def closedForms : List String := ["LiteralString", "NoReturn", "Never", "Self", "TypeAlias"]

def specialForms : List String :=
  ["Union", "Optional", "ClassVar", "Final", literalForm, "Concatenate", "TypeGuard", "Required",
    "NotRequired", "Unpack"]

def outerForms : List String := [staticForm, "Final"]

def genericForms : List (String × Nat) :=
  [("AbstractSet", 1), ("AsyncContextManager", 1), ("AsyncGenerator", 2), ("AsyncIterable", 1),
    ("AsyncIterator", 1), ("Awaitable", 1), ("ByteString", 0), ("ChainMap", 2), ("Collection", 1),
    ("Container", 1), ("ContextManager", 1), ("Coroutine", 3), ("Counter", 1), ("DefaultDict", 2),
    ("Deque", 1), ("Dict", 2), ("FrozenSet", 1), ("Generator", 3), ("Hashable", 0),
    ("ItemsView", 2), ("Iterable", 1), ("Iterator", 1), ("KeysView", 1), ("List", 1),
    ("Mapping", 2), ("MappingView", 1), ("Match", 1), ("MutableMapping", 2),
    ("MutableSequence", 1), ("MutableSet", 1), ("OrderedDict", 2), ("Pattern", 1),
    ("Reversible", 1), ("Sequence", 1), ("Set", 1), ("Sized", 0), ("Type", 1), ("ValuesView", 1)]

def variadicForms : List String := ["Tuple", "Callable"]

def protocolClass : ClassName := ⟨formModule, "Protocol"⟩

def isGenericBase (named : ClassName) : Bool := named == genericClass || named == protocolClass

def remarkClass : ClassName := ⟨formModule, "Annotated"⟩

def protocolForms : List (String × Nat) :=
  [("SupportsAbs", 1), ("SupportsBytes", 0), ("SupportsComplex", 0), ("SupportsFloat", 0),
    ("SupportsIndex", 0), ("SupportsInt", 0), ("SupportsRound", 1)]

def classForms : List (String × Nat) := [("BinaryIO", 0), ("IO", 1), ("TextIO", 0)] ++ protocolForms

/-- Checks an argument that has to be a type. `outer` holds where a form that describes the
attribute may stand. -/
def checkArgument (outer : Bool) (hint : TypeHint) : Hinted :=
  match hint with
  | .formed name _ =>
    if isGenericBase ⟨formModule, name⟩ || (outerForms.contains name && !outer) then
      .error (.notArgument hint.quoted)
    else .ok hint
  | .remarked (.form name) _ =>
    if outerForms.contains name && !outer then .error (.notArgument hint.quoted) else .ok hint
  | .form name =>
    if outer && outerForms.contains name then .ok hint
    else if specialForms.contains name then .error (.plainForm hint.quoted)
    else .ok hint
  | .type named =>
    if isGenericBase named then .error (.plainForm hint.quoted) else .ok hint
  | other => .ok other

def argumentOf (outer : Bool) (hint : TypeHint) : Hinted := converted hint >>= checkArgument outer

def shownLength : Nat := 100

def spelledArguments (arguments : List TypeHint) : String :=
  String.ofList (("(" ++ joinWith ", " (arguments.map quoted) ++ ")").toList.take shownLength)

def soleArgument (demand : String) (arguments : List TypeHint) : Hinted :=
  match arguments with
  | [single] => argumentOf false single
  | several => .error (.notSingle demand (spelledArguments several))

def members : TypeHint → List TypeHint
  | .union members _ => members
  | other => [other]

def unionOf (arguments : List TypeHint) : Hinted := do
  let checked ← arguments.mapM (argumentOf false)
  let flat := checked.flatMap members
  match unhashableAmong? flat with
  | some value => .error (.unhashable value)
  | none =>
    match removeRepeats same [] flat with
    | [single] => .ok single
    | distinct => .ok (.union distinct false)

def literalsOf (arguments : List TypeHint) : List TypeHint :=
  let flat := arguments.flatMap fun argument =>
    match argument with
    | .formed name inner => if name = literalForm then inner else [argument]
    | other => [other]
  if (unhashableAmong? flat).isSome then flat
  else removeRepeats (fun left right => same left right && left.valueKind == right.valueKind) [] flat

def checkCount (title name : String) (expected : Nat) (arguments : List TypeHint) : Hinted :=
  if expected = 0 then .error (.notGeneric title)
  else if arguments.length = expected then .ok (.formed name arguments)
  else .error (.argumentCount title arguments.length expected)

def tupleOf (arguments : List TypeHint) : Hinted :=
  let isOpen :=
    decide (2 ≤ arguments.length) && (arguments.getLast?.map (same ellipsis)).getD false
  if isOpen then do
    let checked ← arguments.dropLast.mapM (argumentOf false)
    .ok (.formed "Tuple" (checked ++ [ellipsis]))
  else (arguments.mapM (argumentOf false)).map (.formed "Tuple")

def callableOf (arguments : List TypeHint) : Hinted :=
  match arguments with
  | [parameters, result] => do
    let result ← argumentOf false result
    let listed :=
      match parameters with
      | .literal (.list values) => values.map TypeHint.literal
      | other => [other]
    let parameters ← listed.mapM converted
    .ok (.callable parameters result)
  | _ => .error .callableShape

def concatenationOf (arguments : List TypeHint) : Hinted :=
  match arguments.getLast? with
  | none => .error .emptyConcatenation
  | some last =>
    if same ellipsis last then do
      let checked ← arguments.dropLast.mapM (argumentOf false)
      .ok (.formed "Concatenate" (checked ++ [last]))
    else .error .openConcatenation

def applyForm (name : String) (arguments : List TypeHint) : Hinted :=
  let title := quoted (.form name)
  if closedForms.contains name then .error (.notSubscriptable title)
  else
    match name with
    | "Union" => if arguments.isEmpty then .error .emptyUnion else unionOf arguments
    | "Optional" => do
      let single ← soleArgument (title ++ " requires a single type.") arguments
      unionOf [single, noneType]
    | "Literal" => .ok (.formed name (literalsOf arguments))
    | "Concatenate" => concatenationOf arguments
    | "Tuple" => tupleOf arguments
    | "Callable" => callableOf arguments
    | "Required" | "NotRequired" =>
      (soleArgument (name ++ " accepts only a single type.") arguments).map fun single =>
        .formed name [single]
    | _ =>
      match genericForms.lookup name with
      | some expected => arguments.mapM (argumentOf false) >>= checkCount title name expected
      | none =>
        (soleArgument (title ++ " accepts only single type.") arguments).map fun single =>
          .formed name [single]

def isPlainKind (kind : String) : Bool := kind == "ellipsis" || kind == "NotImplementedType"

def remarkedOf (arguments : List TypeHint) : Hinted :=
  match arguments with
  | first :: second :: rest => do
    match ← argumentOf true first with
    | .remarked inner remarks => .ok (.remarked inner (remarks ++ second :: rest))
    | .literal value => .error (.noModule value.kind)
    | .constant name kind =>
      if isPlainKind kind then .error (.noModule kind)
      else .ok (.remarked (.constant name kind) (second :: rest))
    | hint => .ok (.remarked hint (second :: rest))
  | _ => .error .lonelyRemark

def genericClasses : List ClassName :=
  ["dict", "enumerate", "frozenset", "list", "set", "tuple", "type", "BaseExceptionGroup",
    "ExceptionGroup"].map (ClassName.mk "builtins") ++ [⟨"collections", "OrderedDict"⟩]

def goesByWholeName (named : ClassName) : Bool :=
  let further : List ClassName :=
    [⟨"decimal", "Decimal"⟩, ⟨"decimal", "Context"⟩, ⟨"collections", "OrderedDict"⟩,
      ⟨"collections", "defaultdict"⟩, ⟨"types", "GenericAlias"⟩]
  named.module == "datetime" || further.contains named

def isVariable : TypeHint → Bool
  | .constant _ kind => kind == variableKind
  | _ => false

def genericOf (name : String) (arguments : List TypeHint) : Hinted :=
  if !arguments.all isVariable then .error (.notVariables name)
  else if (removeRepeats same [] arguments).length = arguments.length then
    .ok (.formed name arguments)
  else .error (.repeatedVariables name)

def applyClass (named : ClassName) (arguments : List TypeHint) : Hinted :=
  if genericClasses.contains named then .ok (.applied named arguments)
  else if named = remarkClass then remarkedOf arguments
  else if isGenericBase named then arguments.mapM converted >>= genericOf named.name
  else if named.module = formModule then
    match classForms.lookup named.name with
    | some expected =>
      arguments.mapM converted >>= checkCount (quoted (.type named)) named.name expected
    | none => .error (.notSubscriptable ("type '" ++ named.name ++ "'"))
  else
    let name := if goesByWholeName named then qualified named else named.name
    .error (.notSubscriptable ("type '" ++ clipped nameRoom name ++ "'"))

def isProtocol (named : ClassName) : Bool :=
  named.module == formModule && (protocolForms.lookup named.name).isSome

def operandKind : TypeHint → String
  | .literal value => value.kind
  | .constant _ kind => kind
  | .type named =>
    if named = anyType then "_AnyMeta"
    else if named = protocolClass || isProtocol named then "_ProtocolMeta"
    else "type"
  | .union _ _ => "types.UnionType"
  | .applied _ _ => "types.GenericAlias"
  | _ => "type"

def apply (origin : TypeHint) (arguments : List TypeHint) : Hinted :=
  match origin with
  | .form name => applyForm name arguments
  | .type named => applyClass named arguments
  | other => .error (.notSubscriptable ("'" ++ other.operandKind ++ "' object"))

def joinsAnything : TypeHint → Bool
  | .form _ | .forward _ | .formed _ _ | .callable _ _ | .remarked _ _ => true
  | .union _ piped => !piped
  | .constant _ kind => kind == variableKind
  | _ => false

def joinsTypes : TypeHint → Bool
  | .type _ | .applied _ _ => true
  | .union _ piped => piped
  | _ => false

def pipedUnion (left right : TypeHint) : TypeHint :=
  let part (hint : TypeHint) : List TypeHint :=
    match hint with
    | .literal .null => [noneType]
    | other => other.members
  match removeRepeats same [] (part left ++ part right) with
  | [single] => single
  | distinct => .union distinct true

def isNull : TypeHint → Bool
  | .literal .null => true
  | _ => false

def joinValues? (left right : Value) : Option Value :=
  match left, right with
  | .bool first, .bool second => some (.bool (first || second))
  | .object entries, .object further => some (.object (Entries.merge entries further))
  | _, _ => do
    let first ← left.asInt?
    let second ← right.asInt?
    some (.int (joinBits first second))
where
  joinBits (first second : Int) : Int :=
    match first, second with
    | .ofNat first, .ofNat second => .ofNat (first ||| second)
    | .ofNat first, .negSucc second => .negSucc (second - (second &&& first))
    | .negSucc first, .ofNat second => .negSucc (first - (first &&& second))
    | .negSucc first, .negSucc second => .negSucc (first &&& second)

def bar (left right : TypeHint) : Hinted :=
  let refused : Hinted := .error (.operands left.operandKind right.operandKind)
  if left.joinsAnything then unionOf [left, right]
  else if (left.joinsTypes && (right.joinsTypes || right.isNull)) ||
      (left.isNull && right.joinsTypes) then .ok (pipedUnion left right)
  else if right.joinsAnything then unionOf [left, right]
  else
    match left, right with
    | .literal first, .literal second =>
      match joinValues? first second with
      | some value => .ok (.literal value)
      | none => refused
    | _, _ => refused

end TypeHint

end SqlScaffold.Scan
