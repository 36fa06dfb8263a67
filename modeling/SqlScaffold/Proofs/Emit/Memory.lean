import SqlScaffold.Proofs.Emit.Delivery
import SqlScaffold.Proofs.Keyed

/-!
Units in memory. The first unit of a name is stored and every later one is refused, so that what is
stored never changes and every name is stored once.
-/

namespace SqlScaffold.Emit

def entryOf (unit : SourceUnit) : String × String := (unit.qualifiedName, unit.body)

@[simp] theorem names_entries (units : List SourceUnit) :
    (units.map entryOf).map Prod.fst = units.map SourceUnit.qualifiedName := by
  rw [List.map_map]
  rfl

section Steps

variable {artifacts : Artifacts} {unit : SourceUnit}

theorem toMemory_of_held (held : unit.qualifiedName ∈ artifacts.map Prod.fst) :
    toMemory artifacts unit = failed artifacts (.refused (.repeated unit.qualifiedName)) := by
  simp [toMemory, Keyed.isSome_lookup_iff.mpr held]

theorem toMemory_of_free (free : unit.qualifiedName ∉ artifacts.map Prod.fst) :
    toMemory artifacts unit =
      succeeded (artifacts ++ [entryOf unit]) none .debug
        ("Stored " ++ unit.qualifiedName ++ " in memory") := by
  have absent : ¬(artifacts.lookup unit.qualifiedName).isSome := mt Keyed.isSome_lookup_iff.mp free
  simp only [toMemory, if_neg absent]
  rfl

theorem nodup_names_append (distinct : (artifacts.map Prod.fst).Nodup)
    (free : unit.qualifiedName ∉ artifacts.map Prod.fst) :
    ((artifacts ++ [entryOf unit]).map Prod.fst).Nodup := by
  rw [List.map_append, List.nodup_append]
  refine ⟨distinct, by simp, ?_⟩
  intro held member new last same
  rw [same, List.mem_singleton.mp last] at member
  exact free member

end Steps

def namesOf (deliveries : List Delivery) : List String :=
  deliveries.map fun delivery => delivery.unit.qualifiedName

theorem namesOf_eq (deliveries : List Delivery) :
    namesOf deliveries = (deliveries.map Delivery.unit).map SourceUnit.qualifiedName := by
  rw [List.map_map]
  rfl

variable {before after : Artifacts} {delivery : Delivery} {rest deliveries : List Delivery}

/-- A delivery to memory: a unit of a new name is stored, and one of a name that is there is
refused and leaves everything as it is. -/
theorem cases_of_delivers (delivered : Delivers toMemory before (delivery :: rest) after) :
    (delivery.unit.qualifiedName ∉ before.map Prod.fst ∧ delivery.refusal = none ∧
      Delivers toMemory (before ++ [entryOf delivery.unit]) rest after) ∨
    (delivery.unit.qualifiedName ∈ before.map Prod.fst ∧
      delivery.refusal = some (.repeated delivery.unit.qualifiedName) ∧
        Delivers toMemory before rest after) := by
  by_cases held : delivery.unit.qualifiedName ∈ before.map Prod.fst
  · refine Or.inr ⟨held, ?_⟩
    cases delivered with
    | stored accepted later =>
      rw [toMemory_of_held held] at accepted
      cases accepted
    | refused refusal later =>
      rw [toMemory_of_held held] at refusal later
      have same := EmissionFailure.refused.inj (Except.error.inj refusal)
      exact ⟨congrArg some same.symm, later⟩
  · refine Or.inl ⟨held, ?_⟩
    cases delivered with
    | stored accepted later =>
      rw [toMemory_of_free held] at later
      exact ⟨rfl, later⟩
    | refused refusal later =>
      rw [toMemory_of_free held] at refusal
      cases refusal

theorem eq_append_of_delivers (delivered : Delivers toMemory before deliveries after) :
    after = before ++ (storedUnits deliveries).map entryOf := by
  induction deliveries generalizing before with
  | nil =>
    cases delivered
    simp [storedUnits]
  | cons delivery rest ih =>
    rcases cases_of_delivers delivered with ⟨_, stored, later⟩ | ⟨_, refused, later⟩
    · rw [ih later]
      simp [storedUnits, Delivery.stored?, stored]
    · rw [ih later]
      simp [storedUnits, Delivery.stored?, refused]

theorem mem_names_iff_of_delivers (delivered : Delivers toMemory before deliveries after)
    {name : String} :
    name ∈ after.map Prod.fst ↔ name ∈ before.map Prod.fst ∨ name ∈ namesOf deliveries := by
  induction deliveries generalizing before with
  | nil =>
    cases delivered
    simp [namesOf]
  | cons delivery rest ih =>
    simp only [namesOf, List.map_cons, List.mem_cons] at ih ⊢
    rcases cases_of_delivers delivered with ⟨_, _, later⟩ | ⟨held, _, later⟩
    · rw [ih later]
      simp [entryOf, or_assoc]
    · rw [ih later]
      constructor
      · exact Or.imp_right Or.inr
      · rintro (old | rfl | further)
        · exact Or.inl old
        · exact Or.inl held
        · exact Or.inr further

theorem nodup_names_of_delivers (delivered : Delivers toMemory before deliveries after)
    (distinct : (before.map Prod.fst).Nodup) : (after.map Prod.fst).Nodup := by
  induction deliveries generalizing before with
  | nil =>
    cases delivered
    exact distinct
  | cons delivery rest ih =>
    rcases cases_of_delivers delivered with ⟨free, _, later⟩ | ⟨_, _, later⟩
    · exact ih later (nodup_names_append distinct free)
    · exact ih later distinct

/-- No unit is refused exactly if no name comes twice, nor one that memory holds already. -/
theorem unrefused_iff_of_delivers (delivered : Delivers toMemory before deliveries after)
    (distinct : (before.map Prod.fst).Nodup) :
    refusals deliveries = [] ↔ (before.map Prod.fst ++ namesOf deliveries).Nodup := by
  induction deliveries generalizing before with
  | nil => simpa [refusals, namesOf] using distinct
  | cons delivery rest ih =>
    rcases cases_of_delivers delivered with ⟨free, stored, later⟩ | ⟨held, refused, _⟩
    · have skipped : refusals (delivery :: rest) = refusals rest := by
        simp [refusals, Delivery.diagnostic?, stored]
      rw [skipped, ih later (nodup_names_append distinct free)]
      simp [namesOf, entryOf]
    · have listed : refusals (delivery :: rest) ≠ [] := by
        simp [refusals, Delivery.diagnostic?, refused]
      refine iff_of_false listed fun unique => ?_
      exact (List.nodup_append.mp unique).2.2 _ held _ List.mem_cons_self rfl

end SqlScaffold.Emit
