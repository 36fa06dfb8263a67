import SqlScaffold.Proofs.Generator
import SqlScaffold.Proofs.Run.Summary

/-!
When a run returns. It does if no input ends it by itself and if its emitter answers every call; the
calls are known beforehand, as the units do not depend on the answers.
-/

namespace SqlScaffold.Run

open Emit Scan

variable {σ : Type} {generator : Generator} {emitter : Emitter σ}

theorem answered_of_delivers {state final : σ} {deliveries : List Delivery}
    (delivered : Delivers emitter state deliveries final) :
    ∀ call ∈ calls emitter state (deliveries.map Delivery.unit),
      (emitter call.1 call.2).Answered := by
  induction delivered with
  | nil _ => simp [calls]
  | stored accepted _ ih =>
    intro call member
    rcases List.mem_cons.mp member with rfl | later
    · exact Or.inl ⟨_, accepted⟩
    · exact ih call later
  | refused refusal _ ih =>
    intro call member
    rcases List.mem_cons.mp member with rfl | later
    · exact Or.inr ⟨_, refusal⟩
    · exact ih call later

theorem mem_of_mem_calls {state : σ} {units : List SourceUnit} {call : σ × SourceUnit}
    (member : call ∈ calls emitter state units) : call.2 ∈ units := by
  induction units generalizing state with
  | nil => simp [calls] at member
  | cons unit rest ih =>
    rcases List.mem_cons.mp member with rfl | later
    · exact List.mem_cons_self
    · exact List.mem_cons_of_mem unit (ih later)

theorem emitUnit_returns {state : σ} {unit : SourceUnit} (report : Report)
    (answered : (emitter state unit).Answered) :
    (emitUnit emitter unit report state).value.failure = none ∧
      (emitUnit emitter unit report state).value.state = (emitter state unit).state := by
  rcases answered with ⟨path, accepted⟩ | ⟨error, refused⟩
  · simp [emitUnit, accepted, Logged.silent]
  · simp [emitUnit, refused, noted, Logged.map]

theorem emitUnits_returns {units : List SourceUnit} (report : Report) {state : σ}
    (answered : ∀ call ∈ calls emitter state units, (emitter call.1 call.2).Answered) :
    (emitUnits emitter units report state).value.failure = none ∧
      (emitUnits emitter units report state).value.state = stateAfter emitter state units := by
  induction units generalizing report state with
  | nil => exact ⟨rfl, rfl⟩
  | cons unit rest ih =>
    obtain ⟨going, reached⟩ := emitUnit_returns report (answered _ List.mem_cons_self)
    have later := ih (emitUnit emitter unit report state).value.report
      fun call member => answered call (List.mem_cons_of_mem _ member)
    simp only [emitUnits]
    rw [value_andThen _ going, reached]
    exact later

theorem unitsOf_scanned {input : Input} {model : Model} {units : List SourceUnit}
    (scanned : (input.scan generator.settings.packageName).value = .ok model)
    (made : generator.units model = .ok units) : unitsOf generator input = units := by
  simp [unitsOf, modelOf?, scanned, made, Except.toOption]

theorem named_of_unitsOf {input : Input} {model : Model} {units : List SourceUnit}
    (scanned : (input.scan generator.settings.packageName).value = .ok model)
    (made : generator.units model = .ok units) :
    ∀ unit ∈ unitsOf generator input, unit.package = model.package ∧
      (unit.name = model.name ++ generator.settings.supportSuffix ∨
        unit.name = model.name ++ generator.settings.mapperSuffix) := by
  obtain ⟨support, mapper, rfl⟩ := Generator.units_eq_ok made
  rw [unitsOf_scanned scanned made]
  intro unit member
  rcases List.mem_cons.mp member with rfl | later
  · exact ⟨rfl, Or.inl rfl⟩
  · rw [List.mem_singleton.mp later]
    exact ⟨rfl, Or.inr rfl⟩

theorem runInput_returns (index : Nat) {input : Input} (report : Report) {state : σ}
    (passes : Passes generator input)
    (answered : ∀ call ∈ calls emitter state (unitsOf generator input),
      (emitter call.1 call.2).Answered) :
    (runInput generator emitter index input report state).value.failure = none ∧
      (runInput generator emitter index input report state).value.state =
        stateAfter emitter state (unitsOf generator input) := by
  cases passes with
  | rejected scanned =>
    rw [value_runInput_rejected report state scanned]
    simp [unitsOf, modelOf?, scanned, Except.toOption, stateAfter]
  | ungenerated scanned failed =>
    rw [value_runInput_scanned report state scanned]
    simp [unitsOf, modelOf?, scanned, failed, Except.toOption, stateAfter]
  | generated scanned made =>
    rw [value_runInput_scanned report state scanned]
    rw [unitsOf_scanned scanned made] at answered ⊢
    simp only [made]
    exact emitUnits_returns _ answered

theorem runFrom_returns {index : Nat} {inputs : List Input} (report : Report) {state : σ}
    (passed : ∀ input ∈ inputs, Passes generator input)
    (answered : ∀ call ∈ calls emitter state (generatedUnits generator inputs),
      (emitter call.1 call.2).Answered) :
    (runFrom generator emitter index inputs report state).value.failure = none := by
  induction inputs generalizing index report state with
  | nil => rfl
  | cons input rest ih =>
    have divided : generatedUnits generator (input :: rest) =
        unitsOf generator input ++ generatedUnits generator rest := rfl
    rw [divided, calls_append] at answered
    obtain ⟨going, reached⟩ := runInput_returns index report
      (passed input List.mem_cons_self)
      fun call member => answered call (List.mem_append_left _ member)
    simp only [runFrom]
    rw [value_andThen _ going, reached]
    exact ih _ (fun other member => passed other (List.mem_cons_of_mem input member))
      fun call member => answered call (List.mem_append_right _ member)

/-- A run returns exactly if its inputs pass and its emitter answers. -/
theorem run_returns_iff (inputs : List Input) (state : σ) :
    (run generator emitter inputs state).value.failure = none ↔
      (∀ input ∈ inputs, Passes generator input) ∧
        ∀ call ∈ calls emitter state (generatedUnits generator inputs),
          (emitter call.1 call.2).Answered := by
  constructor
  · intro returned
    obtain ⟨deliveries, summary⟩ := run_summary returned
    refine ⟨summary.passed, ?_⟩
    rw [← summary.generated]
    exact answered_of_delivers summary.delivered
  · rintro ⟨passed, answered⟩
    rw [value_run]
    exact runFrom_returns {} passed answered

end SqlScaffold.Run
