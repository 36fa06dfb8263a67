/-!
Records of what the program did, in order, and computations that leave such records behind.
-/

namespace SqlScaffold

inductive Level where
  | notset
  | debug
  | info
  | warning
  | error
  | critical
  deriving DecidableEq, Repr

def Level.rank : Level → Nat
  | notset => 0
  | debug => 10
  | info => 20
  | warning => 30
  | error => 40
  | critical => 50

def Level.name : Level → String
  | notset => "NOTSET"
  | debug => "DEBUG"
  | info => "INFO"
  | warning => "WARNING"
  | error => "ERROR"
  | critical => "CRITICAL"

inductive LogSource where
  | loading
  | scanning
  | generating
  | emitting
  | diagnosing
  | running
  | commandLine
  deriving DecidableEq, Repr

def LogSource.name : LogSource → String
  | loading => "dsl_assist.utils"
  | scanning => "dsl_assist.codegen.core.scanner"
  | generating => "dsl_assist.codegen.languages.java.generator"
  | emitting => "dsl_assist.codegen.emitter"
  | diagnosing => "dsl_assist.codegen.core.generator"
  | running => "dsl_assist.codegen"
  | commandLine => "dsl_assist.codegen.cli_integration"

structure LogRecord where
  level : Level
  source : LogSource
  message : String
  deriving DecidableEq, Repr

structure Logged (α : Type) where
  logs : List LogRecord
  value : α

namespace Logged

def silent {α : Type} (value : α) : Logged α := ⟨[], value⟩

def after {α : Type} (logs : List LogRecord) (result : Logged α) : Logged α :=
  ⟨logs ++ result.logs, result.value⟩

def map {α β : Type} (change : α → β) (result : Logged α) : Logged β :=
  ⟨result.logs, change result.value⟩

def andThenOk {ε α β : Type} (first : Logged (Except ε α)) (next : α → Logged (Except ε β)) :
    Logged (Except ε β) :=
  match first.value with
  | .error error => ⟨first.logs, .error error⟩
  | .ok value => after first.logs (next value)

@[simp] theorem after_nil {α : Type} (result : Logged α) : after [] result = result := rfl

@[simp] theorem logs_after {α : Type} (logs : List LogRecord) (result : Logged α) :
    (after logs result).logs = logs ++ result.logs := rfl

@[simp] theorem value_after {α : Type} (logs : List LogRecord) (result : Logged α) :
    (after logs result).value = result.value := rfl

end Logged

end SqlScaffold
