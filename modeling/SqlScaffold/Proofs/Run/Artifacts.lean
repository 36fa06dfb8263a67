import SqlScaffold.Proofs.Emit.Memory
import SqlScaffold.Proofs.Run.Declarations

/-!
Memory behind a run. It holds what it held before and then the units of the report, each under a
name of its own; of several units of one name, the first is stored and the others are refused.
-/

namespace SqlScaffold.Run

open Emit Scan

variable {generator : Generator}

structure Handed (before : Artifacts) (earlier : List Delivery) (delivery : Delivery) :
    Prop where
  refusal : delivery.refusal =
    if delivery.unit.qualifiedName ∈ before.map Prod.fst ++ namesOf earlier then
      some (.repeated delivery.unit.qualifiedName)
    else none
  unchanged : delivery.refusal ≠ none →
    stateAfter toMemory before ((earlier ++ [delivery]).map Delivery.unit) =
      stateAfter toMemory before (earlier.map Delivery.unit)

theorem handed_of_delivers {before after : Artifacts} {earlier later : List Delivery}
    {delivery : Delivery}
    (delivered : Delivers toMemory before (earlier ++ delivery :: later) after) :
    Handed before earlier delivery := by
  obtain ⟨met, passed, further⟩ := delivered.split
  have names : delivery.unit.qualifiedName ∈ met.map Prod.fst ↔
      delivery.unit.qualifiedName ∈ before.map Prod.fst ++ namesOf earlier := by
    rw [mem_names_iff_of_delivers passed, List.mem_append]
  have behind : stateAfter toMemory before ((earlier ++ [delivery]).map Delivery.unit) =
      (toMemory met delivery.unit).state := by
    rw [passed.eq_stateAfter]
    simp [stateAfter]
  rcases cases_of_delivers further with ⟨free, stored, _⟩ | ⟨held, refused, _⟩
  · exact ⟨by rw [stored, if_neg (mt names.mpr free)], fun other => absurd stored other⟩
  · refine ⟨by rw [refused, if_pos (names.mp held)], fun _ => ?_⟩
    rw [behind, toMemory_of_held held, ← passed.eq_stateAfter]
    rfl

/-- Memory that is empty at first refuses no unit exactly if no name is generated twice. -/
theorem unrefused_iff_distinct {inputs : List Input}
    (returned : (run generator toMemory inputs []).value.failure = none) :
    (run generator toMemory inputs []).value.report.ofKind "emission" = [] ↔
      ((generatedUnits generator inputs).map SourceUnit.qualifiedName).Nodup := by
  obtain ⟨deliveries, summary⟩ := run_summary returned
  rw [summary.emissions, unrefused_iff_of_delivers summary.delivered List.nodup_nil, namesOf_eq,
    summary.generated]
  rfl

theorem artifacts_eq_units {inputs : List Input} {before : Artifacts}
    (returned : (run generator toMemory inputs before).value.failure = none) :
    (run generator toMemory inputs before).value.state =
      before ++ (run generator toMemory inputs before).value.report.units.map entryOf := by
  obtain ⟨deliveries, summary⟩ := run_summary returned
  rw [eq_append_of_delivers summary.delivered, summary.units]

structure FirstStays (generator : Generator) (inputs : List Input) (before : Artifacts)
    (outcome : Progress Artifacts) : Prop where
  names : outcome.state.map Prod.fst =
    before.map Prod.fst ++ outcome.report.units.map SourceUnit.qualifiedName
  distinct : (outcome.state.map Prod.fst).Nodup
  kept : ∀ name body, before.lookup name = some body → outcome.state.lookup name = some body
  stored : ∀ unit ∈ outcome.report.units,
    outcome.state.lookup unit.qualifiedName = some unit.body
  delivered : ∃ deliveries : List Delivery,
    deliveries.map Delivery.unit = generatedUnits generator inputs ∧
      outcome.report.units = storedUnits deliveries ∧
      outcome.report.ofKind "emission" = refusals deliveries ∧
      outcome.state = stateAfter toMemory before (deliveries.map Delivery.unit) ∧
      ∀ earlier delivery later, deliveries = earlier ++ delivery :: later →
        Handed before earlier delivery

/-- Behind every run that returns, memory holds what it held and what the run reports as stored. -/
theorem run_firstStays (generator : Generator) (inputs : List Input) (before : Artifacts)
    (distinct : (before.map Prod.fst).Nodup)
    (returned : (run generator toMemory inputs before).value.failure = none) :
    FirstStays generator inputs before (run generator toMemory inputs before).value := by
  obtain ⟨deliveries, summary⟩ := run_summary returned
  have grown := artifacts_eq_units returned
  have unique := nodup_names_of_delivers summary.delivered distinct
  exact {
    names := by rw [grown, List.map_append, names_entries]
    distinct := unique
    kept := by
      intro name body held
      rw [grown, List.lookup_append, held]
      rfl
    stored := by
      intro unit member
      rw [Keyed.lookup_eq_some_iff_mem unique, grown]
      exact List.mem_append_right _ (List.mem_map_of_mem (f := entryOf) member)
    delivered := by
      refine ⟨deliveries, summary.generated, summary.units, summary.emissions,
        summary.delivered.eq_stateAfter, ?_⟩
      rintro earlier delivery later rfl
      exact handed_of_delivers summary.delivered }

theorem standard_returns (values : List Value) (artifacts : Artifacts) :
    (run .standard toMemory (values.map .declaration) artifacts).value.failure = none :=
  (declarations_return_iff rfl values artifacts).mpr
    ⟨Or.inr ⟨4, rfl⟩, fun call _ => toMemory_answered call.1 call.2⟩

/-- A model that is declared twice, with its mapper in memory before. -/
theorem run_firstStays_twice :
    let inputs := [.object [("name", .text "A")], .object [("name", .text "A")]].map
      Input.declaration
    let before := [("AMyBatisDSLMapper", "")]
    (before.map Prod.fst).Nodup ∧ (run .standard toMemory inputs before).value.failure = none ∧
      FirstStays .standard inputs before (run .standard toMemory inputs before).value := by
  have returned := standard_returns [.object [("name", .text "A")], .object [("name", .text "A")]]
    [("AMyBatisDSLMapper", "")]
  exact ⟨by simp, returned, run_firstStays .standard _ _ (by simp) returned⟩

end SqlScaffold.Run
