import SqlScaffold.Expression.Depth
import SqlScaffold.Expression.Parse
import SqlScaffold.Load.Binding

/-!
Texts that a module evaluates. The names of an expression are looked up in the module, in the order
in which they are needed, and every one has to be bound.
-/

namespace SqlScaffold.Load

open Expression Scan Text

def literalKind : Literal → String
  | .null => "NoneType"
  | .truth _ => "bool"
  | .ellipsis => "ellipsis"
  | .number (.whole _) => "int"
  | .number .fraction => "float"
  | .number .imaginary => "complex"
  | .text => "str"
  | .bytes => "bytes"

def gatheredValue (kind : Gathered) : Binding :=
  match kind with
  | .list => valueOfKind "" "list"
  | .set => valueOfKind "" "set"
  | .dict => valueOfKind "" "dict"
  | .generator => valueOfKind "" "generator"

structure Surroundings where
  running : Running
  module : String

namespace Surroundings

mutual

def evaluate (around : Surroundings) : Tree → Except HintError Binding
  | .name id => resolveName around.running around.module id
  | .literal value => .ok (valueOfKind "" (literalKind value))
  | .member owner id => do memberOf around.running (← evaluate around owner) id
  | .tuple parts => (evaluateAll around parts).map fun _ => valueOfKind "" "tuple"
  | .list parts => (evaluateAll around parts).map fun _ => gatheredValue .list
  | .set parts => (evaluateAll around parts).map fun _ => gatheredValue .set
  | .dict parts => (evaluateAll around parts).map fun _ => gatheredValue .dict
  | .joined parts => (evaluateAll around parts).map fun _ => valueOfKind "" "str"
  | .function parameters _ =>
    (evaluateAll around parameters).map fun _ => valueOfKind "" TypeHint.plainFunctionKind
  | .comprehension kind _ loops => (evaluateSource around loops).map fun _ => gatheredValue kind
  | .unary _ part | .keyword _ part | .mapping part | .spread part | .bound _ part =>
    (evaluate around part).map fun _ => .other
  | .binary _ left right | .subscript left right | .entry left right => do
    let _ ← evaluate around left
    let _ ← evaluate around right
    .ok .other
  | .comparison _ left others => do
    let _ ← evaluate around left
    let _ ← evaluateAll around others
    .ok .other
  | .call callee arguments => do
    let _ ← evaluate around callee
    let _ ← evaluateAll around arguments
    .ok .other
  | .chain (first :: _) => (evaluate around first).map fun _ => .other
  | .choice _ condition _ => (evaluate around condition).map fun _ => .other
  | .parameter _ parts | .slice parts => (evaluateAll around parts).map fun _ => .other
  | .chain [] | .loop _ _ _ _ | .awaited _ | .yielded _ | .delegated _ => .ok .other

def evaluateAll (around : Surroundings) : List Tree → Except HintError Unit
  | [] => .ok ()
  | first :: rest => do
    let _ ← evaluate around first
    evaluateAll around rest

def evaluateSource (around : Surroundings) : List Tree → Except HintError Unit
  | .loop _ _ source _ :: _ => do
    let _ ← evaluate around source
    .ok ()
  | _ => .ok ()

end

end Surroundings

def faultException : Fault → String
  | .tooDeep => "MemoryError"
  | .indented | .unindented | .unevenLines => "IndentationError"
  | _ => "SyntaxError"

def faultLine (text : String) : Nat :=
  if text = "" then 0
  else
    let lines := splitChars '\n' (unifyNewlines text.toList)
    let filled := (lines.reverse.dropWhile fun line => line.all isBlank).length
    Nat.max 1 filled

def faultMessage (text : String) : Fault → String
  | .tooDeep => Fault.tooDeep.message
  | fault => fault.message ++ " (<string>, line " ++ toString (faultLine text) ++ ")"

def evaluateText (around : Surroundings) (text : String) :
    Except (String × String) (Except HintError Binding) :=
  if text.toList.contains (Char.ofNat 0) then
    .error ("ValueError", HintError.nullReference.message)
  else
    match Expression.read text with
    | .ok tree =>
      if tree.isTooDeep then .error ("RecursionError", Tree.depthMessage "compilation")
      else .ok (around.evaluate tree)
    | .error fault => .error (faultException fault, faultMessage text fault)

def resolveChain (around : Surroundings) : List String → Except HintError Binding
  | [] => .error (.unbound "")
  | first :: members => do
    let owner ← resolveName around.running around.module first
    members.foldlM (memberOf around.running) owner

def Binding.named (text : String) : Binding → Binding
  | .known ⟨.constant name kind, reaction⟩ =>
    .known ⟨.constant (if name = "" then text else name) kind, reaction⟩
  | binding => binding

def resolve (running : Running) (module text : String) : Except HintError Binding :=
  let around : Surroundings := ⟨running, module⟩
  let names := splitAtChar '.' (normalForm text)
  if names.all isIdentifier then resolveChain around names
  else
    match evaluateText around text with
    | .ok binding => binding.map (Binding.named text)
    | .error _ => .error (.unbound text)

def raisedByExpression (around : Surroundings) (text : String) : Except HintError Outcome :=
  match evaluateText around (trimStart text) with
  | .error raised => .ok (some raised)
  | .ok given => do
    match ← given with
    | .known thing =>
      match thing.reaction with
      | .exception name => .ok (some (name, ""))
      | _ => .ok none
    | _ => .ok none

/-- The exception of a body of statements, if it raises one. Of statements only expressions are
evaluated, and a body gives nothing that can be raised. -/
def raisedByBody (around : Surroundings) (text : String) : Except HintError Outcome :=
  let isEmpty (line : List Char) : Bool :=
    match line.dropWhile isBlank with
    | [] => true
    | first :: _ => first == '#'
  if (splitChars '\n' (unifyNewlines text.toList)).all isEmpty then .ok none
  else
    match evaluateText around text with
    | .error raised => .ok (some raised)
    | .ok given => given.map fun _ => none

def raisedByText (around : Surroundings) (isBody : Bool) (text : String) :
    Except HintError Outcome :=
  if isBody then raisedByBody around text else raisedByExpression around text

def shortNames : List (String × String) :=
  [("datetime", "datetime.datetime"), ("date", "datetime.date"), ("time", "datetime.time"),
    ("Decimal", "decimal.Decimal"), ("UUID", "uuid.UUID")]

def lookupIn (running : Running) (module : String) : HintLookup := fun name =>
  let whole := (shortNames.lookup name).getD name
  (resolve running module whole).map (Binding.asHint name)

end SqlScaffold.Load
