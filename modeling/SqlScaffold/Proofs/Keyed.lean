import Mathlib.Data.List.Nodup
import SqlScaffold.Keyed

/-!
Lists under keys, each of which occurs once: a value is found under a key exactly if it stands there,
and leaving out the values of some keys can be done before or after a value is put.
-/

namespace SqlScaffold.Keyed

section Lookup

variable {κ ν : Type} [BEq κ] [LawfulBEq κ] {entries : List (κ × ν)} {key : κ}

theorem isSome_lookup_iff : (entries.lookup key).isSome ↔ key ∈ entries.map Prod.fst := by
  induction entries with
  | nil => simp
  | cons entry rest ih =>
    obtain ⟨first, held⟩ := entry
    by_cases same : key = first
    · simp [same]
    · simp [List.lookup_cons, beq_eq_false_iff_ne.mpr same, same, ih]

theorem lookup_eq_none_iff : entries.lookup key = none ↔ key ∉ entries.map Prod.fst := by
  rw [← isSome_lookup_iff, Option.not_isSome_iff_eq_none]

theorem lookup_eq_some_iff_mem (distinct : (entries.map Prod.fst).Nodup) {value : ν} :
    entries.lookup key = some value ↔ (key, value) ∈ entries := by
  induction entries with
  | nil => simp
  | cons entry rest ih =>
    obtain ⟨first, held⟩ := entry
    rw [List.map_cons, List.nodup_cons] at distinct
    by_cases same : key = first
    · subst same
      have absent : ∀ other, (key, other) ∉ rest := fun other member =>
        distinct.1 (List.mem_map.mpr ⟨(key, other), member, rfl⟩)
      simp [absent, eq_comm]
    · simp [List.lookup_cons, beq_eq_false_iff_ne.mpr same, same, ih distinct.2]

theorem lookup_filter (kept : κ → Bool) :
    (entries.filter fun entry => kept entry.1).lookup key =
      if kept key then entries.lookup key else none := by
  induction entries with
  | nil => simp
  | cons entry rest ih =>
    obtain ⟨first, held⟩ := entry
    by_cases same : key = first
    · subst same
      by_cases keep : kept key = true <;> simp [keep, ih]
    · have apart := beq_eq_false_iff_ne.mpr same
      by_cases keep : kept first = true <;> simp [keep, ih, List.lookup_cons, apart]

end Lookup

variable {κ ν : Type} [DecidableEq κ] (key : κ) (value : ν) {entries : List (κ × ν)}

theorem put_of_not_mem (fresh : key ∉ entries.map Prod.fst) :
    put key value entries = entries ++ [(key, value)] := by
  induction entries with
  | nil => rfl
  | cons entry rest ih =>
    simp only [List.map_cons, List.mem_cons, not_or] at fresh
    simp [put, Ne.symm fresh.1, ih fresh.2]

theorem filter_put (kept : κ → Bool) :
    (put key value entries).filter (fun entry => kept entry.1) =
      if kept key then put key value (entries.filter fun entry => kept entry.1)
      else entries.filter fun entry => kept entry.1 := by
  induction entries with
  | nil => by_cases keep : kept key = true <;> simp [put, keep]
  | cons entry rest ih =>
    by_cases here : entry.1 = key
    · by_cases keep : kept key = true <;> simp [put, here, keep]
    · by_cases first : kept entry.1 = true
      · by_cases keep : kept key = true <;> simp [put, here, first, keep, ih]
      · by_cases keep : kept key = true <;> simp [put, here, first, keep, ih]

end SqlScaffold.Keyed
