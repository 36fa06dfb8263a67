import SqlScaffold.Log
import SqlScaffold.Text.Case
import SqlScaffold.Value

/-!
Set-up of logging: one handler on the root logger, for a level that is given by name. Some levels
have two names.
-/

namespace SqlScaffold.Logging

open Text

def levelNames : List (String × Level) :=
  [("CRITICAL", .critical), ("FATAL", .critical), ("ERROR", .error), ("WARN", .warning),
    ("WARNING", .warning), ("INFO", .info), ("DEBUG", .debug), ("NOTSET", .notset)]

def levelOf? (name : String) : Option Level := levelNames.lookup (upper name)

inductive Handler where
  | styled
  | stream
  deriving DecidableEq, Repr

def Handler.name : Handler → String
  | styled => "RichHandler"
  | stream => "StreamHandler"

def Handler.recordFormat : Handler → String
  | styled => "%(message)s"
  | stream => "%(asctime)s | %(levelname)s | %(name)s | %(message)s"

def Handler.timeFormat : Handler → String
  | styled => "[%X]"
  | stream => "%Y-%m-%d %H:%M:%S"

structure Setup where
  level : Level
  handler : Handler
  deriving DecidableEq, Repr

inductive SetupError where
  | unknownLevel
  | notText (kind : String)
  deriving DecidableEq, Repr

def SetupError.message : SetupError → String
  | unknownLevel => "Unable to configure handler 'default'"
  | notText kind => "'" ++ kind ++ "' object has no attribute 'upper'"

def configure (level : Value) (handler : Handler) : Except SetupError Setup :=
  match level with
  | .text name =>
    match levelOf? name with
    | some level => .ok ⟨level, handler⟩
    | none => .error .unknownLevel
  | other => .error (.notText other.kind)

inductive NameError where
  | notText
  deriving DecidableEq, Repr

def NameError.message : NameError → String
  | notText => "A logger name must be a string"

def loggerName (name : Value) : Except NameError String :=
  if !name.isTruthy then .ok "root"
  else
    match name with
    | .text content => .ok content
    | _ => .error .notText

/-- Every value that is not empty names a logger if it is a text, and only then. -/
theorem loggerName_eq_ok_iff {value : Value} {name : String} :
    loggerName value = .ok name ↔
      (value.isTruthy = false ∧ name = "root") ∨ (value = .text name ∧ name ≠ "") := by
  unfold loggerName
  by_cases truthy : value.isTruthy = true
  · cases value with
    | text content =>
      have filled : content ≠ "" := by simpa [Value.isTruthy] using truthy
      simp only [truthy, Bool.not_true, Bool.false_eq_true, if_false, Except.ok.injEq, false_and,
        false_or, Value.text.injEq, reduceCtorEq]
      exact ⟨fun same => ⟨same, same ▸ filled⟩, fun same => same.1⟩
    | _ => simp [truthy]
  · have other : ¬(value = .text name ∧ name ≠ "") := by
      rintro ⟨rfl, filled⟩
      simp [Value.isTruthy, filled] at truthy
    simp [truthy, other, @eq_comm _ "root"]

end SqlScaffold.Logging
