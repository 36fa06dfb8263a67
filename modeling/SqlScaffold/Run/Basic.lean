import SqlScaffold.Emit.Emission
import SqlScaffold.Run.Report
import SqlScaffold.Scan.Input

/-!
Runs over inputs. Every input is scanned, generated and emitted in turn. An input that is no
model, a model that no template accepts and a unit that is not stored become diagnostics, and the
run goes on; any other failure ends it.
-/

namespace SqlScaffold

open Emit Scan

inductive RunFailure where
  | unhashable (value : TypeHint.UnhashableValue)
  | name (error : Naming.NameError)
  | blanks (error : Source.BlanksError)
  | access (error : Files.AccessError)
  | markup (error : Console.MarkupError)
  deriving DecidableEq, Repr

def RunFailure.message : RunFailure → String
  | unhashable value => value.message
  | name error => error.message
  | blanks error => error.message
  | access error => error.message
  | markup error => error.message

structure Progress (σ : Type) where
  report : Report
  state : σ
  failure : Option RunFailure

namespace Run

def andThen {σ : Type} (first : Logged (Progress σ)) (next : Report → σ → Logged (Progress σ)) :
    Logged (Progress σ) :=
  match first.value.failure with
  | some _ => first
  | none => .after first.logs (next first.value.report first.value.state)

def stopped {σ : Type} (report : Report) (state : σ) (failure : RunFailure) :
    Logged (Progress σ) :=
  .silent ⟨report, state, some failure⟩

def noted {σ : Type} (report : Report) (state : σ) (diagnostic : Diagnostic) :
    Logged (Progress σ) :=
  (report.addDiagnostic diagnostic).map fun report => ⟨report, state, none⟩

def emitUnit {σ : Type} (emitter : Emitter σ) (unit : SourceUnit) (report : Report) (state : σ) :
    Logged (Progress σ) :=
  let emission := emitter state unit
  .after emission.outcome.logs <|
    match emission.outcome.value with
    | .ok _ => .silent ⟨report.addUnit unit, emission.state, none⟩
    | .error (.refused error) =>
      noted report emission.state ⟨"emission", unit.qualifiedName, error.message⟩
    | .error (.access error) => stopped report emission.state (.access error)
    | .error (.markup error) => stopped report emission.state (.markup error)

def emitUnits {σ : Type} (emitter : Emitter σ) :
    List SourceUnit → Report → σ → Logged (Progress σ)
  | [], report, state => .silent ⟨report, state, none⟩
  | unit :: rest, report, state =>
    andThen (emitUnit emitter unit report state) (emitUnits emitter rest)

def warningsOf (generator : Generator) (model : Model) : List String :=
  (generator.warnings model).map fun warning => model.qualifiedName ++ ": " ++ warning.message

def warningRecord (warning : String) : LogRecord := ⟨.warning, .running, warning⟩

def runModel {σ : Type} (generator : Generator) (emitter : Emitter σ) (model : Model)
    (report : Report) (state : σ) : Logged (Progress σ) :=
  let warnings := warningsOf generator model
  let report := report.addScanned.addWarnings warnings
  let generated := generator.generate model
  .after (warnings.map warningRecord ++ generated.logs) <|
    match generated.value with
    | .error (.template error) =>
      noted report state ⟨"generation", model.qualifiedName, error.message⟩
    | .error (.name error) => stopped report state (.name error)
    | .error (.blanks error) => stopped report state (.blanks error)
    | .ok units => emitUnits emitter units report state

def runInput {σ : Type} (generator : Generator) (emitter : Emitter σ) (index : Nat)
    (input : Input) (report : Report) (state : σ) : Logged (Progress σ) :=
  let scanned := input.scan generator.settings.packageName
  .after scanned.logs <|
    match scanned.value with
    | .error (.rejected error) =>
      noted report state ⟨"scan", input.describe index, error.message⟩
    | .error (.unhashable value) => stopped report state (.unhashable value)
    | .ok model => runModel generator emitter model report state

def runFrom {σ : Type} (generator : Generator) (emitter : Emitter σ) :
    Nat → List Input → Report → σ → Logged (Progress σ)
  | _, [], report, state => .silent ⟨report, state, none⟩
  | index, input :: rest, report, state =>
    andThen (runInput generator emitter index input report state)
      (runFrom generator emitter (index + 1) rest)

def summaryRecord (report : Report) : LogRecord :=
  ⟨.info, .running,
    "Generated " ++ toString report.units.length ++ " artifact(s) from " ++
      toString report.scanned ++ " model(s), " ++ toString report.diagnostics.length ++
      " diagnostic(s)"⟩

def run {σ : Type} (generator : Generator) (emitter : Emitter σ) (inputs : List Input)
    (state : σ) : Logged (Progress σ) :=
  andThen (runFrom generator emitter 0 inputs {} state) fun report state =>
    ⟨[summaryRecord report], ⟨report, state, none⟩⟩

theorem andThen_going {σ : Type} (logs : List LogRecord) (report : Report) (state : σ)
    (next : Report → σ → Logged (Progress σ)) :
    andThen ⟨logs, report, state, none⟩ next = .after logs (next report state) := rfl

theorem andThen_assoc {σ : Type} (first : Logged (Progress σ))
    (second third : Report → σ → Logged (Progress σ)) :
    andThen (andThen first second) third =
      andThen first fun report state => andThen (second report state) third := by
  obtain ⟨logs, report, state, failure⟩ := first
  cases failure with
  | some failure => rfl
  | none =>
    simp only [andThen_going]
    cases ended : (second report state).value.failure with
    | some failure => simp [andThen, ended]
    | none => simp [andThen, ended, Logged.after]

/-- A run over two lists is the run over the first and then the run over the second. -/
theorem runFrom_append {σ : Type} (generator : Generator) (emitter : Emitter σ)
    (first second : List Input) : ∀ index report state,
    runFrom generator emitter index (first ++ second) report state =
      andThen (runFrom generator emitter index first report state)
        (runFrom generator emitter (index + first.length) second) := by
  induction first with
  | nil =>
    intro index report state
    rfl
  | cons input rest ih =>
    intro index report state
    simp only [List.cons_append, runFrom, andThen_assoc, List.length_cons]
    congr 1
    funext report state
    rw [ih, Nat.add_assoc, Nat.add_comm 1]

end Run

end SqlScaffold
