import SqlScaffold.CommandLine.Option
import SqlScaffold.Text.Case

/-!
Arguments of a command. Options are taken in order; the first run of other arguments names the
files, and whatever is left over is an error.
-/

namespace SqlScaffold.CommandLine

open Text

/-- Arguments of a command. A module is missing where an option for one has lost its value, and so
is the level. -/
structure Arguments where
  files : List String := []
  url : Option String := none
  modules : List (Option String) := []
  output : Option String := none
  dryRun : Bool := false
  config : Option String := none
  packageName : Option String := none
  noComments : Bool := false
  verbose : Bool := false
  level : Option Level := some .warning
  deriving DecidableEq, Repr

inductive Stop where
  | usage (error : UsageError)
  | help
  | version
  deriving DecidableEq, Repr

def levelOf (value : String) : Except Stop Level :=
  let name := upper value
  match chosenLevels.find? fun level => level.name == name with
  | some level => .ok level
  | none => .error (.usage (.unknownLevel name))

def setFlag (parameter : Parameter) (arguments : Arguments) : Except Stop Arguments :=
  match parameter with
  | .help => .error .help
  | .version => .error .version
  | .dryRun => .ok { arguments with dryRun := true }
  | .noComments => .ok { arguments with noComments := true }
  | .verbose => .ok { arguments with verbose := true }
  | _ => .ok arguments

/-- The value of an option. The mark that ends the options is taken out of it, so that an option
for this mark alone has no value. -/
def keptValue (value : String) : Option String := if value = "--" then none else some value

def setValue (parameter : Parameter) (value : String) (arguments : Arguments) :
    Except Stop Arguments :=
  let kept := keptValue value
  match parameter with
  | .logLevel => (kept.mapM levelOf).map fun level => { arguments with level }
  | .url => .ok { arguments with url := kept }
  | .module => .ok { arguments with modules := arguments.modules ++ [kept] }
  | .output => .ok { arguments with output := kept }
  | .config => .ok { arguments with config := kept }
  | .packageName => .ok { arguments with packageName := kept }
  | _ => .ok arguments

def helpTail (hasNext : Bool) : List Char → Stop
  | [] => .help
  | c :: rest =>
    match spellings.lookup (String.ofList ['-', c]) with
    | none => .usage (.ignoredValue .help (String.ofList (c :: rest)))
    | some .help => helpTail hasNext rest
    | some parameter =>
      if rest.isEmpty && !hasNext then .usage (.expectedValue parameter) else .help

def refuseValue (parameter : Parameter) (spelling value : String) (hasNext : Bool) : Stop :=
  if startsWith "--" spelling || value = "" then .usage (.ignoredValue parameter value)
  else helpTail hasNext value.toList

/-- What was read so far. `files` is missing until the first run of other arguments, and
`collecting` holds inside that run. -/
structure Reading where
  arguments : Arguments := {}
  files : Option (List String) := none
  collecting : Bool := false
  extras : List String := []

def Reading.addPlain (reading : Reading) (text : String) : Reading :=
  match reading.files with
  | none => { reading with files := some [text], collecting := true }
  | some files =>
    if reading.collecting then { reading with files := some (files ++ [text]) }
    else { reading with extras := reading.extras ++ [text] }

def Reading.withArguments (reading : Reading) (arguments : Arguments) : Reading :=
  { reading with arguments, collecting := false }

def isPlain : List Token → Bool
  | .plain _ :: _ => true
  | _ => false

def readTokens (reading : Reading) : List Token → Except Stop Reading
  | [] => .ok reading
  | .separator :: rest => readTokens (reading.addPlain "--") rest
  | .plain text :: rest => readTokens (reading.addPlain text) rest
  | .unknown text :: rest =>
    readTokens { reading with extras := reading.extras ++ [text], collecting := false } rest
  | .option parameter spelling (some value) :: rest =>
    if parameter.takesValue then do
      let arguments ← setValue parameter value reading.arguments
      readTokens (reading.withArguments arguments) rest
    else .error (refuseValue parameter spelling value (isPlain rest))
  | .option parameter _ none :: rest =>
    if parameter.takesValue then
      match rest with
      | .plain value :: rest => do
        let arguments ← setValue parameter value reading.arguments
        readTokens (reading.withArguments arguments) rest
      | _ => .error (.usage (.expectedValue parameter))
    else do
      let arguments ← setFlag parameter reading.arguments
      readTokens (reading.withArguments arguments) rest

def Arguments.read (given : List String) : Except Stop Arguments := do
  let tokens ← (classifyAll given).mapError Stop.usage
  let reading ← readTokens {} tokens
  if reading.extras.isEmpty then
    .ok { reading.arguments with files := (reading.files.getD []).erase "--" }
  else .error (.usage (.unrecognized reading.extras))

end SqlScaffold.CommandLine
