/-!
Outcomes of computations that may fail: where the outcome of a composed computation comes from.
-/

namespace SqlScaffold.Outcome

variable {ε δ α β : Type}

theorem bind_eq_ok_iff {first : Except ε α} {next : α → Except ε β} {result : β} :
    first >>= next = .ok result ↔ ∃ value, first = .ok value ∧ next value = .ok result := by
  cases first with
  | error error => simp [bind, Except.bind]
  | ok value => simp [bind, Except.bind]

theorem bind_ok_eq_error_iff {first : Except ε α} {result : α → β} {error : ε} :
    (first >>= fun value => .ok (result value)) = .error error ↔ first = .error error := by
  cases first with
  | error other => simp [bind, Except.bind]
  | ok value => simp [bind, Except.bind]

@[simp] theorem mapError_ok (value : α) (change : ε → δ) :
    (.ok value : Except ε α).mapError change = .ok value := rfl

@[simp] theorem mapError_error (error : ε) (change : ε → δ) :
    (.error error : Except ε α).mapError change = .error (change error) := rfl

theorem mapError_eq_ok_iff {outcome : Except ε α} {change : ε → δ} {value : α} :
    outcome.mapError change = .ok value ↔ outcome = .ok value := by
  cases outcome with
  | error error => simp
  | ok other => simp

theorem mapError_eq_error_iff {outcome : Except ε α} {change : ε → δ} {error : δ} :
    outcome.mapError change = .error error ↔
      ∃ cause, outcome = .error cause ∧ change cause = error := by
  cases outcome with
  | error cause => simp
  | ok value => simp

theorem map_eq_ok_iff {outcome : Except ε α} {change : α → β} {result : β} :
    outcome.map change = .ok result ↔ ∃ value, outcome = .ok value ∧ change value = result := by
  cases outcome with
  | error error => simp [Except.map]
  | ok value => simp [Except.map]

theorem map_eq_error_iff {outcome : Except ε α} {change : α → β} {error : ε} :
    outcome.map change = .error error ↔ outcome = .error error := by
  cases outcome with
  | error other => simp [Except.map]
  | ok value => simp [Except.map]

theorem mapM_ok {convert : α → Except ε β} {items : List α}
    (converts : ∀ item ∈ items, ∃ result, convert item = .ok result) :
    ∃ results, items.mapM convert = .ok results := by
  induction items with
  | nil => exact ⟨[], rfl⟩
  | cons item rest ih =>
    obtain ⟨first, converted⟩ := converts item List.mem_cons_self
    obtain ⟨results, later⟩ :=
      ih fun other member => converts other (List.mem_cons_of_mem item member)
    refine ⟨first :: results, ?_⟩
    rw [List.mapM_cons, converted, later]
    rfl

theorem mapM_eq_ok_map {convert : α → Except ε β} {result : α → β} {items : List α}
    (converts : ∀ item ∈ items, convert item = .ok (result item)) :
    items.mapM convert = .ok (items.map result) := by
  induction items with
  | nil => rfl
  | cons item rest ih =>
    rw [List.mapM_cons, converts item List.mem_cons_self,
      ih fun other member => converts other (List.mem_cons_of_mem item member)]
    rfl

theorem exists_of_mapM_ok {convert : α → Except ε β} {items : List α} {results : List β}
    (converted : items.mapM convert = .ok results) :
    ∀ item ∈ items, ∃ result, convert item = .ok result ∧ result ∈ results := by
  induction items generalizing results with
  | nil => simp
  | cons item rest ih =>
    rw [List.mapM_cons] at converted
    obtain ⟨first, here, afterFirst⟩ := bind_eq_ok_iff.mp converted
    obtain ⟨later, there, listed⟩ := bind_eq_ok_iff.mp afterFirst
    cases listed
    intro other member
    rcases List.mem_cons.mp member with same | inside
    · exact ⟨first, same ▸ here, List.mem_cons_self⟩
    · obtain ⟨result, made, present⟩ := ih there other inside
      exact ⟨result, made, List.mem_cons_of_mem first present⟩

theorem ok_of_mapM_ok {convert : α → Except ε β} {items : List α} {results : List β}
    (converted : items.mapM convert = .ok results) :
    ∀ item ∈ items, ∃ result, convert item = .ok result := by
  intro item inside
  obtain ⟨result, made, _⟩ := exists_of_mapM_ok converted item inside
  exact ⟨result, made⟩

theorem forM_eq_ok_iff {check : α → Except ε Unit} {items : List α} :
    items.forM check = .ok () ↔ ∀ item ∈ items, check item = .ok () := by
  induction items with
  | nil => simp [List.forM, pure, Except.pure]
  | cons item rest ih =>
    rw [List.forM, bind_eq_ok_iff, List.forall_mem_cons, ← ih]
    constructor
    · rintro ⟨_, here, later⟩
      exact ⟨here, later⟩
    · rintro ⟨here, later⟩
      exact ⟨(), here, later⟩

end SqlScaffold.Outcome
