import SqlScaffold.Proofs.Run.Completion

/-!
Simulations. Two emitters whose states are related store and refuse the same units; then their runs
over the same inputs end alike, and what they report differs at most in the messages about refused
units.
-/

namespace SqlScaffold

open Emit Scan

def Diagnostic.mark (diagnostic : Diagnostic) : String × String :=
  (diagnostic.kind, diagnostic.subject)

structure Report.Agrees (first second : Report) : Prop where
  units : first.units = second.units
  marks : first.diagnostics.map Diagnostic.mark = second.diagnostics.map Diagnostic.mark
  warnings : first.warnings = second.warnings
  scanned : first.scanned = second.scanned

theorem Report.Agrees.refl (report : Report) : report.Agrees report := ⟨rfl, rfl, rfl, rfl⟩

theorem Report.Agrees.append {first second : Report} (agrees : first.Agrees second)
    (added : Report) : (first.append added).Agrees (second.append added) where
  units := by simp [Report.append, agrees.units]
  marks := by simp [Report.append, agrees.marks]
  warnings := by simp [Report.append, agrees.warnings]
  scanned := by simp [Report.append, agrees.scanned]

namespace Emit

variable {σ τ : Type}

/-- Both emissions store their unit, or both refuse it; `related` says how the states hang together
once some units are stored. -/
inductive Alike (related : List SourceUnit → σ → τ → Prop) (stored : List SourceUnit)
    (unit : SourceUnit) (first : Emission σ) (second : Emission τ) : Prop
  | stored {path other} : first.outcome.value = .ok path → second.outcome.value = .ok other →
      related (stored ++ [unit]) first.state second.state → Alike related stored unit first second
  | refused {error other} : first.outcome.value = .error (.refused error) →
      second.outcome.value = .error (.refused other) →
      related stored first.state second.state → Alike related stored unit first second

def Matches (related : List SourceUnit → σ → τ → Prop) (emitter : Emitter σ) (other : Emitter τ)
    (unit : SourceUnit) : Prop :=
  ∀ stored state mirror, related stored state mirror →
    Alike related stored unit (emitter state unit) (other mirror unit)

end Emit

namespace Run

variable {σ τ : Type} {generator : Generator} {emitter : Emitter σ} {other : Emitter τ}
  {related : List SourceUnit → σ → τ → Prop}

structure Simulates (related : List SourceUnit → σ → τ → Prop) (first : Progress σ)
    (second : Progress τ) : Prop where
  failure : first.failure = second.failure
  report : first.report.Agrees second.report
  state : related first.report.units first.state second.state

theorem andThen_simulates {first : Logged (Progress σ)} {second : Logged (Progress τ)}
    {next : Report → σ → Logged (Progress σ)} {further : Report → τ → Logged (Progress τ)}
    (here : Simulates related first.value second.value)
    (there : ∀ report mirrored state mirror, report.Agrees mirrored →
      related report.units state mirror →
      Simulates related (next report state).value (further mirrored mirror).value) :
    Simulates related (andThen first next).value (andThen second further).value := by
  cases ended : first.value.failure with
  | some failure =>
    have stopped : second.value.failure = some failure := here.failure ▸ ended
    simpa only [andThen, ended, stopped] using here
  | none =>
    have going : second.value.failure = none := here.failure ▸ ended
    rw [value_andThen _ ended, value_andThen _ going]
    exact there _ _ _ _ here.report here.state

section Steps

variable {report mirrored : Report} {state : σ} {mirror : τ}

theorem emitUnit_simulates {unit : SourceUnit} (agrees : report.Agrees mirrored)
    (alike : Alike related report.units unit (emitter state unit) (other mirror unit)) :
    Simulates related (emitUnit emitter unit report state).value
      (emitUnit other unit mirrored mirror).value := by
  cases alike with
  | stored accepted mirrored next =>
    simp only [emitUnit, accepted, mirrored, Logged.silent, Logged.value_after]
    refine ⟨rfl, ⟨?_, agrees.marks, agrees.warnings, agrees.scanned⟩, next⟩
    simp [Report.addUnit, agrees.units]
  | refused refusal mirrored next =>
    simp only [emitUnit, refusal, mirrored, noted, Logged.map, Report.addDiagnostic,
      Logged.value_after]
    refine ⟨rfl, ⟨agrees.units, ?_, agrees.warnings, agrees.scanned⟩, next⟩
    simp [Diagnostic.mark, agrees.marks]

theorem emitUnits_simulates {units : List SourceUnit}
    (alike : ∀ unit ∈ units, Matches related emitter other unit)
    (agrees : report.Agrees mirrored) (start : related report.units state mirror) :
    Simulates related (emitUnits emitter units report state).value
      (emitUnits other units mirrored mirror).value := by
  induction units generalizing report mirrored state mirror with
  | nil => exact ⟨rfl, agrees, start⟩
  | cons unit rest ih =>
    exact andThen_simulates
      (emitUnit_simulates agrees (alike unit List.mem_cons_self _ state mirror start))
      fun _ _ _ _ =>
        ih fun unit member => alike unit (List.mem_cons_of_mem _ member)

/-- The step of two runs: one input leaves them equally far. -/
theorem runInput_simulates (index : Nat) {input : Input}
    (alike : ∀ unit ∈ unitsOf generator input, Matches related emitter other unit)
    (agrees : report.Agrees mirrored) (start : related report.units state mirror) :
    Simulates related (runInput generator emitter index input report state).value
      (runInput generator other index input mirrored mirror).value := by
  have unchanged : ∀ added : Report, added.units = [] →
      related (report.append added).units state mirror := by
    intro added unadded
    simpa [Report.append, unadded] using start
  cases scanned : (input.scan generator.settings.packageName).value with
  | error failure =>
    cases failure with
    | unhashable value =>
      simp only [runInput, scanned, stopped, Logged.silent, Logged.value_after]
      exact ⟨rfl, agrees, start⟩
    | rejected error =>
      rw [value_runInput_rejected _ _ scanned, value_runInput_rejected _ _ scanned]
      exact ⟨rfl, agrees.append _, unchanged _ rfl⟩
  | ok model =>
    rw [value_runInput_scanned _ _ scanned, value_runInput_scanned _ _ scanned]
    cases made : generator.units model with
    | error failure => cases failure <;> exact ⟨rfl, agrees.append _, unchanged _ rfl⟩
    | ok units =>
      rw [unitsOf_scanned scanned made] at alike
      exact emitUnits_simulates alike (agrees.append _) (unchanged _ rfl)

theorem runFrom_simulates {index : Nat} {inputs : List Input}
    (alike : ∀ unit ∈ generatedUnits generator inputs, Matches related emitter other unit)
    (agrees : report.Agrees mirrored) (start : related report.units state mirror) :
    Simulates related (runFrom generator emitter index inputs report state).value
      (runFrom generator other index inputs mirrored mirror).value := by
  induction inputs generalizing index report mirrored state mirror with
  | nil => exact ⟨rfl, agrees, start⟩
  | cons input rest ih =>
    have divided : generatedUnits generator (input :: rest) =
        unitsOf generator input ++ generatedUnits generator rest := rfl
    rw [divided] at alike
    exact andThen_simulates
      (runInput_simulates index (fun unit member => alike unit (List.mem_append_left _ member))
        agrees start)
      fun _ _ _ _ => ih fun unit member => alike unit (List.mem_append_right _ member)

end Steps

/-- Runs simulate each other if their emitters do for all units that are generated. -/
theorem run_simulates {inputs : List Input} {state : σ} {mirror : τ}
    (alike : ∀ unit ∈ generatedUnits generator inputs, Matches related emitter other unit)
    (start : related [] state mirror) :
    Simulates related (run generator emitter inputs state).value
      (run generator other inputs mirror).value := by
  rw [value_run, value_run]
  exact runFrom_simulates alike (.refl {}) start

end Run

end SqlScaffold
