import SqlScaffold.CommandLine.Arguments
import SqlScaffold.Console.Table
import SqlScaffold.Emit.Destination
import SqlScaffold.Load.Source
import SqlScaffold.Run.Basic
import SqlScaffold.Settings.Advice
import SqlScaffold.Settings.Stored

/-!
The command: it settles the settings, loads the inputs, runs the generator and shows what came of
it. It answers with an exit code; only failures that no rule foresees end it without one.
-/

namespace SqlScaffold.CommandLine

open Console Emit Files Load Scan

inductive Failure where
  | settings (failure : SettingsFailure)
  | load (failure : LoadFailure)
  | run (failure : RunFailure)
  | markup (error : MarkupError)
  | noLevel

def Failure.message : Failure → String
  | settings failure => failure.message
  | load failure => failure.message
  | run failure => failure.message
  | markup error => error.message
  | noLevel => "'list' object has no attribute 'upper'"

structure Surroundings where
  modules : ModuleSources
  response : Response

structure Traces where
  printed : Printout := []
  logs : List LogRecord := []
  tree : FileTree

/-- A step of the command. Its traces remain when it fails. -/
abbrev Step (α : Type) := ExceptT Failure (StateM Traces) α

def exitOk : Nat := 0
def exitDiagnostics : Nat := 1
def exitUsage : Nat := 2

def printLines (lines : List String) : Step Unit :=
  modify fun traces => { traces with printed := traces.printed ++ lines }

def print (marked : String) : Step Unit :=
  match printedLines marked with
  | .ok lines => printLines lines
  | .error error => throw (.markup error)

def printTable (table : Table) : Step Unit :=
  match table.lines with
  | .ok lines => printLines lines
  | .error error => throw (.markup error)

def addLogs (logs : List LogRecord) : Step Unit :=
  modify fun traces => { traces with logs := traces.logs ++ logs }

def given (option : Option String) : Option String := option.filter (· ≠ "")

def overridesOf (arguments : Arguments) : Entries :=
  (match given arguments.packageName with
    | some name => [(Setting.packageName.key, .text name)]
    | none => []) ++
  (if arguments.noComments then [(Setting.addComments.key, .bool false)] else []) ++
  (match given arguments.output with
    | some directory => [(Setting.outputDirectory.key, .text directory)]
    | none => [])

inductive Refusal where
  | usage (reason : String)
  | configuration (reason : String)
  deriving DecidableEq, Repr

def Refusal.text : Refusal → String
  | usage reason => "[red]✗ Error:[/red] " ++ reason
  | configuration reason => "[red]✗ Configuration error:[/red] " ++ reason

def settleSettings (arguments : Arguments) : Step (Except Refusal Settings) := do
  let traces ← get
  match Settings.load traces.tree (.object (overridesOf arguments)) arguments.config with
  | .error (.config error) => return .error (.usage ("Configuration error: " ++ error.message))
  | .error failure => throw (.settings failure)
  | .ok settings =>
    settings.draft.advice.forM fun advice =>
      print ("[yellow]⚠️  Config:[/yellow] " ++ advice.message)
    return .ok settings

def loadAll (surroundings : Surroundings) (arguments : Arguments) (tree : FileTree) :
    Loaded (List Input) :=
  let fromFiles := arguments.files.map fun file =>
    (fromFile tree (Path.ofText file)).map fun loaded =>
      loaded.map fun declarations => declarations.map Input.declaration
  let fromAddress := (given arguments.url).toList.map fun url =>
    (fromUrl url surroundings.response).map fun loaded =>
      loaded.map fun declarations => declarations.map Input.declaration
  let fromModules := arguments.modules.map fun name =>
    (name.elim fromNoModule (fromModule surroundings.modules)).map fun loaded =>
      loaded.map fun classes => classes.map Input.modelClass
  join (fromFiles ++ fromAddress ++ fromModules)
where
  join : List (Loaded (List Input)) → Loaded (List Input)
    | [] => .silent (.ok [])
    | first :: rest =>
      first.andThenOk fun inputs =>
        (join rest).map fun loaded => loaded.map fun more => inputs ++ more

def isInputGiven (arguments : Arguments) : Bool :=
  !arguments.files.isEmpty || (given arguments.url).isSome || !arguments.modules.isEmpty

def refusals : List (String × (String → Refusal)) :=
  [("ModelLoaderError", .usage), ("CLIError", .usage), ("GeneratorError", .configuration),
    ("ScanError", .configuration), ("EmissionError", .configuration)]

def refusalOf? (failure : LoadFailure) : Option Refusal :=
  match failure with
  | .load error => some (.usage error.message)
  | .module (.raised exception message) =>
    (refusals.lookup exception).map fun refusal => refusal message
  | _ => none

def countRecord (count : Nat) : LogRecord :=
  ⟨.info, .commandLine, "Loaded " ++ toString count ++ " model input(s)"⟩

def loadInputs (surroundings : Surroundings) (arguments : Arguments) :
    Step (Except Refusal (List Input)) := do
  if !isInputGiven arguments then
    return .error (.usage "Input required (FILE, --url or --module)")
  let traces ← get
  printLines [""]
  let loaded := loadAll surroundings arguments traces.tree
  addLogs loaded.logs
  match loaded.value with
  | .error failure =>
    match refusalOf? failure with
    | some refusal => return .error refusal
    | none => throw (.load failure)
  | .ok inputs =>
    addLogs [countRecord inputs.length]
    return .ok inputs

def destinationOf (directory : Option String) (dryRun : Bool) : Destination :=
  if dryRun then .memory
  else directory.elim .terminal fun root => .folder { root := Path.ofText root }

def runGenerator (generator : Generator) (inputs : List Input) (destination : Destination) :
    Step Report := do
  let traces ← get
  let kept : Kept := { tree := traces.tree, printed := traces.printed }
  let progress := Run.run generator destination.emitter inputs kept
  addLogs progress.logs
  modify fun traces =>
    { traces with tree := progress.value.state.tree, printed := progress.value.state.printed }
  match progress.value.failure with
  | some failure => throw (.run failure)
  | none => return progress.value.report

def artifactTable (report : Report) (directory : Option String) (dryRun : Bool) : Table where
  title := if dryRun then "🧪 Would Generate" else "✓ Generated"
  frame := rounded
  headings := ("Artifact", "File")
  rows :=
    let target : Directory := { root := Path.ofText (directory.getD ".") }
    report.units.map fun unit => (unit.qualifiedName, (target.pathFor unit.package unit.name).text)

def summaryTable (report : Report) : Table where
  title := "Run Summary"
  frame := simple
  headings := ("Property", "Value")
  rows :=
    let labels := ["Models Scanned", "Artifacts Emitted", "Diagnostics", "Warnings"]
    labels.zip (report.counts.map fun count => toString count.2)

def printList (color heading : String) (items : List String) : Step Unit :=
  if items.isEmpty then pure ()
  else do
    print ("\n[" ++ color ++ "]" ++ heading ++ "[/" ++ color ++ "]")
    items.forM fun item => print ("  [" ++ color ++ "]•[/" ++ color ++ "] " ++ item)

def generate (generator : Generator) (inputs : List Input) (arguments : Arguments) :
    Step Nat := do
  let directory := given generator.settings.outputDirectory
  let report ← runGenerator generator inputs (destinationOf directory arguments.dryRun)
  if arguments.dryRun || directory.isSome then
    printTable (artifactTable report directory arguments.dryRun)
  if arguments.verbose then
    printLines [""]
    printTable (summaryTable report)
  printList "yellow" "⚠️  Warnings:" report.warnings
  printList "red" "✗ Failures:" (report.diagnostics.map Diagnostic.text)
  return if report.isSuccess then exitOk else exitDiagnostics

def prepare (surroundings : Surroundings) (arguments : Arguments) :
    Step (Except Refusal (Generator × List Input)) := do
  match ← settleSettings arguments with
  | .error refusal => return .error refusal
  | .ok settings =>
    match ← loadInputs surroundings arguments with
    | .error refusal => return .error refusal
    | .ok inputs =>
      match Generator.make settings .shipped with
      | .error error => return .error (.configuration error.message)
      | .ok generator => return .ok (generator, inputs)

def execute (surroundings : Surroundings) (arguments : Arguments) : Step Nat := do
  if arguments.level.isNone then throw .noLevel
  match ← prepare surroundings arguments with
  | .error refusal =>
    print refusal.text
    return exitUsage
  | .ok (generator, inputs) => generate generator inputs arguments

def recordsFrom (level : Level) (logs : List LogRecord) : List LogRecord :=
  logs.filter fun entry => decide (level.rank ≤ entry.level.rank)

def programName : String := "dsl-assist"

def versionText : String := programName ++ " 0.1.0"

end SqlScaffold.CommandLine
