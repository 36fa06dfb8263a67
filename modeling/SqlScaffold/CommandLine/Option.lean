import SqlScaffold.Log
import SqlScaffold.Text.DigitTable
import SqlScaffold.Text.Lines
import SqlScaffold.Text.Quoted

/-!
Options of the command line and how arguments spell them. A long option may be shortened as long
as only one option starts that way, and a value may follow behind an equals sign or, for a short
option, at once.
-/

namespace SqlScaffold.CommandLine

open Text

inductive Parameter where
  | help
  | version
  | logLevel
  | url
  | module
  | output
  | dryRun
  | config
  | packageName
  | noComments
  | verbose
  deriving DecidableEq, Repr

namespace Parameter

def names : Parameter → List String
  | help => ["-h", "--help"]
  | version => ["--version"]
  | logLevel => ["--log-level"]
  | url => ["--url"]
  | module => ["--module", "-m"]
  | output => ["--output", "-o"]
  | dryRun => ["--dry-run"]
  | config => ["--config"]
  | packageName => ["--package-name", "--package"]
  | noComments => ["--no-comments"]
  | verbose => ["--verbose"]

def all : List Parameter :=
  [help, version, logLevel, url, module, output, dryRun, config, packageName, noComments, verbose]

def takesValue : Parameter → Bool
  | logLevel | url | module | output | config | packageName => true
  | help | version | dryRun | noComments | verbose => false

def title (parameter : Parameter) : String := joinWith "/" parameter.names

end Parameter

def spellings : List (String × Parameter) :=
  Parameter.all.flatMap fun parameter => parameter.names.map fun name => (name, parameter)

inductive UsageError where
  | ambiguous (argument : String) (candidates : List String)
  | expectedValue (parameter : Parameter)
  | ignoredValue (parameter : Parameter) (value : String)
  | unknownLevel (value : String)
  | unrecognized (arguments : List String)
  deriving DecidableEq, Repr

def chosenLevels : List Level := [.debug, .info, .warning, .error]

def UsageError.message : UsageError → String
  | ambiguous argument candidates =>
    "ambiguous option: " ++ argument ++ " could match " ++ joinWith ", " candidates
  | expectedValue parameter => "argument " ++ parameter.title ++ ": expected one argument"
  | ignoredValue parameter value =>
    "argument " ++ parameter.title ++ ": ignored explicit argument " ++ quoted value
  | unknownLevel value =>
    "argument " ++ Parameter.logLevel.title ++ ": invalid choice: " ++ quoted value ++
      " (choose from " ++ joinWith ", " (chosenLevels.map fun level => quoted level.name) ++ ")"
  | unrecognized arguments => "unrecognized arguments: " ++ joinWith " " arguments

inductive Token where
  | separator
  | plain (text : String)
  | option (parameter : Parameter) (spelling : String) (value : Option String)
  | unknown (text : String)
  deriving DecidableEq, Repr

def splitValue? (argument : String) : Option (String × String) :=
  let before := argument.toList.takeWhile (· != '=')
  if before.length < argument.toList.length then
    some (String.ofList before, String.ofList (argument.toList.drop (before.length + 1)))
  else none

def candidates (argument : String) : List Token :=
  if startsWith "--" argument then
    let (start, value) :=
      match splitValue? argument with
      | some (start, value) => (start, some value)
      | none => (argument, none)
    (spellings.filter fun entry => startsWith start entry.1).map fun entry =>
      .option entry.2 entry.1 value
  else
    let short := String.ofList (argument.toList.take 2)
    spellings.filterMap fun entry =>
      if entry.1 = short then
        some (.option entry.2 entry.1 (some (String.ofList (argument.toList.drop 2))))
      else if startsWith argument entry.1 then some (.option entry.2 entry.1 none)
      else none

def Token.spelling : Token → String
  | .option _ spelling _ => spelling
  | .separator => "--"
  | .plain text => text
  | .unknown text => text

def dropLineFeed (chars : List Char) : List Char :=
  if chars.getLast? = some '\n' then chars.dropLast else chars

def isNegativeNumber (chars : List Char) : Bool :=
  match dropLineFeed chars with
  | '-' :: rest =>
    let whole := rest.takeWhile isDecimal
    match rest.drop whole.length with
    | [] => !whole.isEmpty
    | '.' :: fraction => !fraction.isEmpty && fraction.all isDecimal
    | _ => false
  | _ => false

def classify (argument : String) : Except UsageError Token :=
  if !startsWith "-" argument then .ok (.plain argument)
  else
    match spellings.lookup argument with
    | some parameter => .ok (.option parameter argument none)
    | none =>
      if argument = "-" then .ok (.plain argument)
      else
        let exact := do
          let (start, value) ← splitValue? argument
          let parameter ← spellings.lookup start
          some (Token.option parameter start (some value))
        match exact with
        | some token => .ok token
        | none =>
          match candidates argument with
          | [token] => .ok token
          | [] =>
            if isNegativeNumber argument.toList || argument.toList.contains ' ' then
              .ok (.plain argument)
            else .ok (.unknown argument)
          | several => .error (.ambiguous argument (several.map Token.spelling))

def classifyAll : List String → Except UsageError (List Token)
  | [] => .ok []
  | argument :: rest =>
    if argument = "--" then .ok (.separator :: rest.map .plain)
    else do
      let token ← classify argument
      let later ← classifyAll rest
      .ok (token :: later)

end SqlScaffold.CommandLine
