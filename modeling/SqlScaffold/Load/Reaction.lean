import SqlScaffold.Load.CallTable
import SqlScaffold.Number.Spelling
import SqlScaffold.Scan.HintForm

/-!
What comes of calling something with a text, as a module does that raises it with a message. Most
things ignore what the text says; some read it.
-/

namespace SqlScaffold.Load

open Number Scan Text

inductive Reading where
  | integer
  | float
  | complex
  | decimal
  | identifier
  | entries (message : String)
  | character
  | numbers
  | choice (name : String)
  | file
  | choiceOf (name : String)
  | typeName
  | reference
  | unreachable
  | annotated
  deriving DecidableEq, Repr

inductive Reaction where
  | exception (name : String)
  | value
  | fault (exception message : String)
  | reads (reading : Reading)
  | marks
  | imports
  | evaluates (isBody : Bool)
  deriving DecidableEq, Repr

abbrev Outcome := Option (String × String)

def notCallable (kind : String) : Reaction :=
  .fault "TypeError" ("'" ++ kind ++ "' object is not callable")

def numberTextLimit : Nat := 200

def unreachableTextLimit : Nat := 100

def fileNameLimit : Nat := 255

def identifierLength : Nat := 32

def notWhole (base : Nat) (text : String) : Outcome :=
  some ("ValueError",
    "invalid literal for int() with base " ++ toString base ++ ": " ++
      String.ofList ((quoted text).toList.take numberTextLimit))

def readInteger (text : String) : Outcome :=
  match integerDigits? text with
  | none => notWhole 10 text
  | some digits =>
    match readDigits digits with
    | .ok _ => none
    | .error error => some ("ValueError", error.message)

def readIdentifier (text : String) : Outcome :=
  let digits := identifierDigits text
  if digits.length ≠ identifierLength then
    some ("ValueError", "badly formed hexadecimal UUID string")
  else if digits.all fun c => (hexValue? c).isSome then none
  else notWhole 16 (String.ofList digits)

def openFile (text : String) : Outcome :=
  if text.toList.contains (Char.ofNat 0) then some ("ValueError", "embedded null byte")
  else if (splitAtChar '/' text).any fun part => fileNameLimit < part.utf8ByteSize then
    some ("OSError", "[Errno 36] File name too long: " ++ quoted text)
  else some ("FileNotFoundError", "[Errno 2] No such file or directory: " ++ quoted text)

def readTypeName (text : String) : Outcome :=
  if !isIdentifier text then
    some ("ValueError",
      "Type names and field names must be valid identifiers: " ++ quoted text)
  else if Expression.keywords.contains text then
    some ("ValueError", "Type names and field names cannot be a keyword: " ++ quoted text)
  else none

def readReference (text : String) : Outcome :=
  match TypeHint.reference text with
  | .ok _ => none
  | .error error =>
    let exception :=
      match error with
      | .emptyReference => "IndexError"
      | .nullReference => "ValueError"
      | .deepExpression => "MemoryError"
      | .unwieldyExpression => "RecursionError"
      | _ => "SyntaxError"
    some (exception, error.message)

def Reading.outcome (text : String) : Reading → Outcome
  | .integer => readInteger text
  | .float =>
    if isFloatSpelling text then none
    else some ("ValueError", "could not convert string to float: " ++ quoted text)
  | .complex =>
    if isComplexSpelling text then none
    else if (dropUnderscores? false (plainSpelling text)).isNone then
      some ("ValueError", "could not convert string to complex: " ++ quoted text)
    else some ("ValueError", "complex() arg is a malformed string")
  | .decimal =>
    if isDecimalSpelling text then none
    else some ("InvalidOperation", "[<class 'decimal.ConversionSyntax'>]")
  | .identifier => readIdentifier text
  | .entries message => if text = "" then none else some ("ValueError", message)
  | .character =>
    if text.length = 1 then none
    else
      some ("TypeError",
        "ord() expected a character, but string of length " ++ toString text.length ++ " found")
  | .numbers =>
    if text = "" then none
    else some ("TypeError", "unsupported operand type(s) for +: 'int' and 'str'")
  | .choice name =>
    if text = "" then some ("ValueError", name ++ "() arg is an empty sequence") else none
  | .file => openFile text
  | .choiceOf name => some ("ValueError", quoted text ++ " is not a valid " ++ name)
  | .typeName => readTypeName text
  | .reference => readReference text
  | .unreachable =>
    let shown := (quoted text).toList
    let limited := shown.take unreachableTextLimit
    some ("AssertionError",
      "Expected code to be unreachable, but got: " ++
        String.ofList (if shown.length ≤ unreachableTextLimit then shown else limited ++ "...".toList))
  | .annotated =>
    some ("TypeError", quoted text ++ " is not a module, class, method, or function.")

def Reaction.outcome (text : String) : Reaction → Outcome
  | .exception name => some (name, if name = "KeyError" then quoted text else text)
  | .value | .imports | .evaluates _ => none
  | .fault kind message => some (kind, message)
  | .reads reading => reading.outcome text
  | .marks => some ("AttributeError", "'str' object has no attribute '__dynamic_model__'")

def readings : List (String × Reading) :=
  let noPairs := "dictionary update sequence element #0 has length 1; 2 is required"
  let noValues := "need more than 1 value to unpack"
  [("builtins.int", .integer), ("builtins.float", .float), ("builtins.complex", .complex),
    ("builtins.dict", .entries noPairs), ("builtins.ord", .character), ("builtins.sum", .numbers),
    ("builtins.max", .choice "max"), ("builtins.min", .choice "min"), ("builtins.open", .file),
    ("decimal.Decimal", .decimal), ("uuid.UUID", .identifier), ("uuid.int_", .integer),
    ("uuid.SafeUUID", .choiceOf "SafeUUID"), ("collections.OrderedDict", .entries noValues),
    ("collections.UserDict", .entries "not enough values to unpack (expected 2, got 1)"),
    ("typing.OrderedDict", .entries noValues), ("typing.NamedTuple", .typeName),
    ("typing._TypedDict", .entries noPairs), ("typing.ForwardRef", .reference),
    ("typing._type_convert", .reference), ("typing.assert_never", .unreachable),
    ("typing.get_type_hints", .annotated)]

def callFault? (module name : String) : Option Reaction := do
  let faults ← callFaults.lookup module
  let found ← faults.find? fun fault => (splitAtChar ' ' fault.members).contains name
  some (.fault found.exception (joinWith name (splitAtChar '%' found.message)))

/-- How a member of a module reacts to a call, where `usual` says how its sort does. -/
def Reaction.ofMember (module name : String) (usual : Reaction) : Reaction :=
  ((readings.lookup (module ++ "." ++ name)).map Reaction.reads).getD
    ((callFault? module name).getD usual)

end SqlScaffold.Load
