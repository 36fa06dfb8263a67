/-!
Lists of values under keys, in the order in which the keys came. Putting a value under a present
key moves nothing, and a new key goes to the end.
-/

namespace SqlScaffold.Keyed

def put {κ ν : Type} [DecidableEq κ] (key : κ) (value : ν) : List (κ × ν) → List (κ × ν)
  | [] => [(key, value)]
  | entry :: rest => if entry.1 = key then (key, value) :: rest else entry :: put key value rest

/-- Putting a value changes what is found under its key and under no other. -/
theorem lookup_put {κ ν : Type} [DecidableEq κ] (key other : κ) (value : ν)
    (entries : List (κ × ν)) :
    (put key value entries).lookup other =
      if other = key then some value else entries.lookup other := by
  induction entries with
  | nil =>
    by_cases same : other = key
    · simp [put, same]
    · simp [put, List.lookup_cons, same, beq_eq_false_iff_ne.mpr same]
  | cons entry rest ih =>
    obtain ⟨first, held⟩ := entry
    by_cases here : first = key
    · subst here
      by_cases same : other = first
      · simp [put, same]
      · simp [put, List.lookup_cons, same, beq_eq_false_iff_ne.mpr same]
    · by_cases found : other = first
      · subst found
        simp [put, here]
      · simp [put, List.lookup_cons, here, beq_eq_false_iff_ne.mpr found, ih]

theorem keys_put {κ ν : Type} [DecidableEq κ] (key : κ) (value : ν) (entries : List (κ × ν)) :
    (put key value entries).map Prod.fst =
      if key ∈ entries.map Prod.fst then entries.map Prod.fst
      else entries.map Prod.fst ++ [key] := by
  induction entries with
  | nil => simp [put]
  | cons entry rest ih =>
    by_cases here : entry.1 = key
    · simp [put, here]
    · have apart : key ≠ entry.1 := fun same => here same.symm
      simp only [put, here, if_false, List.map_cons, ih, List.mem_cons, apart, false_or]
      split <;> rfl

/-- A list in which every key occurs once stays one. -/
theorem nodup_keys_put {κ ν : Type} [DecidableEq κ] (key : κ) (value : ν)
    (entries : List (κ × ν)) (unique : (entries.map Prod.fst).Nodup) :
    ((put key value entries).map Prod.fst).Nodup := by
  rw [keys_put]
  split
  · exact unique
  · next fresh =>
    rw [List.nodup_append]
    refine ⟨unique, by simp, ?_⟩
    intro held present added last
    have same : added = key := by simpa using last
    subst same
    intro equal
    exact fresh (equal ▸ present)

end SqlScaffold.Keyed
