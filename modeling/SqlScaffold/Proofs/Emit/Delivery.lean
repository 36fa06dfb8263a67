import SqlScaffold.Emit.Destination
import SqlScaffold.Run.Report

/-!
Deliveries: units that were handed to an emitter one after the other, each with the refusal that
it met, if any. An emission is answered if the unit is stored or refused; any other failure is
none of the emitter's answers. Deliveries that are all answered determine what a run reports of
them: every unit is either stored or has one diagnostic.
-/

namespace SqlScaffold.Emit

def Emission.Answered {σ : Type} (emission : Emission σ) : Prop :=
  (∃ path, emission.outcome.value = .ok path) ∨
    ∃ error, emission.outcome.value = .error (.refused error)

def LeavesNoErrors {σ : Type} (emitter : Emitter σ) : Prop :=
  ∀ state unit, ∀ entry ∈ (emitter state unit).outcome.logs, entry.level ≠ .error

structure Delivery where
  unit : SourceUnit
  refusal : Option EmissionError

def Delivery.stored? (delivery : Delivery) : Option SourceUnit :=
  match delivery.refusal with
  | none => some delivery.unit
  | some _ => none

def Delivery.diagnostic? (delivery : Delivery) : Option Diagnostic :=
  delivery.refusal.map fun error => ⟨"emission", delivery.unit.qualifiedName, error.message⟩

def storedUnits (deliveries : List Delivery) : List SourceUnit :=
  deliveries.filterMap Delivery.stored?

def refusals (deliveries : List Delivery) : List Diagnostic :=
  deliveries.filterMap Delivery.diagnostic?

inductive Delivers {σ : Type} (emitter : Emitter σ) : σ → List Delivery → σ → Prop
  | nil (state : σ) : Delivers emitter state [] state
  | stored {state final unit path rest} :
      (emitter state unit).outcome.value = .ok path →
      Delivers emitter (emitter state unit).state rest final →
      Delivers emitter state (⟨unit, none⟩ :: rest) final
  | refused {state final unit error rest} :
      (emitter state unit).outcome.value = .error (.refused error) →
      Delivers emitter (emitter state unit).state rest final →
      Delivers emitter state (⟨unit, some error⟩ :: rest) final

def calls {σ : Type} (emitter : Emitter σ) (state : σ) : List SourceUnit → List (σ × SourceUnit)
  | [] => []
  | unit :: rest => (state, unit) :: calls emitter (emitter state unit).state rest

def stateAfter {σ : Type} (emitter : Emitter σ) (state : σ) (units : List SourceUnit) : σ :=
  units.foldl (fun current unit => (emitter current unit).state) state

theorem stateAfter_append {σ : Type} (emitter : Emitter σ) (state : σ)
    (first second : List SourceUnit) :
    stateAfter emitter state (first ++ second) =
      stateAfter emitter (stateAfter emitter state first) second :=
  List.foldl_append

theorem calls_append {σ : Type} (emitter : Emitter σ) (first second : List SourceUnit) (state : σ) :
    calls emitter state (first ++ second) =
      calls emitter state first ++ calls emitter (stateAfter emitter state first) second := by
  induction first generalizing state with
  | nil => rfl
  | cons unit rest ih => simp [calls, stateAfter, ih]

theorem split_of_mem_calls {σ : Type} {emitter : Emitter σ} {state : σ} {units : List SourceUnit}
    {call : σ × SourceUnit} (member : call ∈ calls emitter state units) :
    ∃ earlier later, units = earlier ++ call.2 :: later ∧
      call.1 = stateAfter emitter state earlier := by
  induction units generalizing state with
  | nil => cases member
  | cons unit rest ih =>
    rcases List.mem_cons.mp member with rfl | behind
    · exact ⟨[], rest, rfl, rfl⟩
    · obtain ⟨earlier, later, rfl, met⟩ := ih behind
      exact ⟨unit :: earlier, later, rfl, met⟩

theorem holds_of_mem_calls {σ : Type} {emitter : Emitter σ} {P : σ → Prop} {state : σ}
    {units : List SourceUnit} (start : P state)
    (step : ∀ current unit, P current → P (emitter current unit).state)
    {call : σ × SourceUnit} (member : call ∈ calls emitter state units) : P call.1 := by
  induction units generalizing state with
  | nil => cases member
  | cons unit rest ih =>
    rcases List.mem_cons.mp member with rfl | behind
    · exact start
    · exact ih (step state unit start) behind

theorem related_stateAfter {σ : Type} {emitter : Emitter σ} {R : σ → σ → Prop}
    (refl : ∀ state, R state state)
    (trans : ∀ {first second third}, R first second → R second third → R first third) {state : σ}
    {units : List SourceUnit}
    (steps : ∀ call ∈ calls emitter state units, R call.1 (emitter call.1 call.2).state) :
    R state (stateAfter emitter state units) := by
  induction units generalizing state with
  | nil => exact refl state
  | cons unit rest ih =>
    have here := steps (state, unit) List.mem_cons_self
    exact trans here (ih fun call behind => steps call (List.mem_cons_of_mem _ behind))

theorem Delivers.append {σ : Type} {emitter : Emitter σ} {state middle final : σ}
    {first second : List Delivery} (earlier : Delivers emitter state first middle)
    (later : Delivers emitter middle second final) :
    Delivers emitter state (first ++ second) final := by
  induction earlier with
  | nil _ => exact later
  | stored accepted _ ih => exact .stored accepted (ih later)
  | refused refusal _ ih => exact .refused refusal (ih later)

theorem Delivers.split {σ : Type} {emitter : Emitter σ} {state final : σ}
    {first second : List Delivery} (delivered : Delivers emitter state (first ++ second) final) :
    ∃ middle, Delivers emitter state first middle ∧ Delivers emitter middle second final := by
  induction first generalizing state with
  | nil => exact ⟨state, .nil state, delivered⟩
  | cons delivery rest ih =>
    cases delivered with
    | stored accepted further =>
      obtain ⟨middle, here, there⟩ := ih further
      exact ⟨middle, .stored accepted here, there⟩
    | refused refusal further =>
      obtain ⟨middle, here, there⟩ := ih further
      exact ⟨middle, .refused refusal here, there⟩

theorem Delivers.eq_stateAfter {σ : Type} {emitter : Emitter σ} {state final : σ}
    {deliveries : List Delivery} (delivered : Delivers emitter state deliveries final) :
    final = stateAfter emitter state (deliveries.map Delivery.unit) := by
  induction delivered with
  | nil _ => rfl
  | stored _ _ ih => exact ih
  | refused _ _ ih => exact ih

theorem length_storedUnits_add_refusals (deliveries : List Delivery) :
    (storedUnits deliveries).length + (refusals deliveries).length = deliveries.length := by
  induction deliveries with
  | nil => rfl
  | cons delivery rest ih =>
    obtain ⟨unit, refusal⟩ := delivery
    cases refusal with
    | none =>
      simp only [storedUnits, refusals, List.filterMap_cons, Delivery.stored?,
        Delivery.diagnostic?, Option.map_none, List.length_cons] at ih ⊢
      omega
    | some error =>
      simp only [storedUnits, refusals, List.filterMap_cons, Delivery.stored?,
        Delivery.diagnostic?, Option.map_some, List.length_cons] at ih ⊢
      omega

theorem storedUnits_sublist (deliveries : List Delivery) :
    (storedUnits deliveries).Sublist (deliveries.map Delivery.unit) := by
  induction deliveries with
  | nil => exact List.Sublist.slnil
  | cons delivery rest ih =>
    obtain ⟨unit, refusal⟩ := delivery
    cases refusal with
    | none => exact ih.cons_cons unit
    | some error => exact ih.cons unit

theorem storedUnits_of_unrefused {deliveries : List Delivery}
    (unrefused : refusals deliveries = []) :
    storedUnits deliveries = deliveries.map Delivery.unit := by
  refine (storedUnits_sublist deliveries).eq_of_length ?_
  have all := length_storedUnits_add_refusals deliveries
  rw [unrefused] at all
  simpa using all

theorem kind_of_mem_refusals {deliveries : List Delivery} {diagnostic : Diagnostic}
    (member : diagnostic ∈ refusals deliveries) : diagnostic.kind = "emission" := by
  obtain ⟨delivery, _, noted⟩ := List.mem_filterMap.mp member
  obtain ⟨error, _, rfl⟩ := Option.map_eq_some_iff.mp noted
  rfl

@[simp] theorem answered_failed_iff {σ : Type} (state : σ) (failure : EmissionFailure) :
    (failed state failure).Answered ↔ ∃ error, failure = .refused error := by
  simp [Emission.Answered, failed, Logged.silent]

theorem toMemory_answered (artifacts : Artifacts) (unit : SourceUnit) :
    (toMemory artifacts unit).Answered := by
  simp only [toMemory]
  split
  · simp
  · exact Or.inl ⟨_, rfl⟩

end SqlScaffold.Emit
