import SqlScaffold.Console.Markup
import SqlScaffold.Files.FileTree
import SqlScaffold.Generator

/-!
Emission of source units. An emitter takes a unit and the state that it keeps, and answers with the
path written, if any, and with the state that follows, also after a failure. Most failures only
keep one unit from being stored; the others end a run.
-/

namespace SqlScaffold.Emit

open Files

inductive EmissionError where
  | existing (path : Path)
  | notWritten (path : Path) (error : SystemError)
  | repeated (name : String)
  | other (reason : String)
  deriving DecidableEq, Repr

def EmissionError.message : EmissionError → String
  | existing path => "Refusing to overwrite existing file " ++ path.text
  | notWritten path error => "Failed to write " ++ path.text ++ ": " ++ error.message
  | repeated name => "Artifact " ++ name ++ " was already emitted"
  | other reason => reason

inductive EmissionFailure where
  | refused (error : EmissionError)
  | access (error : AccessError)
  | markup (error : Console.MarkupError)
  deriving DecidableEq, Repr

def EmissionFailure.message : EmissionFailure → String
  | refused error => error.message
  | access error => error.message
  | markup error => error.message

/-- What an emitter answers, and the state that it leaves. It speaks for itself only: no record of
another part of the program comes from it. -/
structure Emission (σ : Type) where
  state : σ
  outcome : Logged (Except EmissionFailure (Option Path))
  own : ∀ entry ∈ outcome.logs, entry.source = .emitting

abbrev Emitter (σ : Type) := σ → SourceUnit → Emission σ

theorem own_silent (value : Except EmissionFailure (Option Path)) :
    ∀ entry ∈ (Logged.silent value).logs, entry.source = .emitting := by
  simp [Logged.silent]

def failed {σ : Type} (state : σ) (failure : EmissionFailure) : Emission σ where
  state := state
  outcome := .silent (.error failure)
  own := own_silent _

def succeeded {σ : Type} (state : σ) (written : Option Path) (level : Level) (message : String) :
    Emission σ where
  state := state
  outcome := ⟨[⟨level, .emitting, message⟩], .ok written⟩
  own := by simp

@[simp] theorem state_succeeded {σ : Type} (state : σ) (written : Option Path) (level : Level)
    (message : String) : (succeeded state written level message).state = state := rfl

@[simp] theorem value_succeeded {σ : Type} (state : σ) (written : Option Path) (level : Level)
    (message : String) : (succeeded state written level message).outcome.value = .ok written := rfl

def refusing {σ : Type} (reason? : SourceUnit → Option String) (emitter : Emitter σ) : Emitter σ :=
  fun state unit =>
    match reason? unit with
    | some reason => failed state (.refused (.other reason))
    | none => emitter state unit

end SqlScaffold.Emit
