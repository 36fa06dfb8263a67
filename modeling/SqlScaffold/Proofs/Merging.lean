import SqlScaffold.Proofs.Keyed
import SqlScaffold.Value

/-!
Merging objects. What a merged object holds under a key is what the later object holds there, or
else the earlier one; merging keeps keys distinct, and keys can be left out before or after it.
-/

namespace SqlScaffold

def Entries.AreDistinct (entries : Entries) : Prop := (entries.map Prod.fst).Nodup

instance (entries : Entries) : Decidable entries.AreDistinct :=
  inferInstanceAs (Decidable (List.Nodup _))

namespace Entries

variable {base further : Entries} {key : String}

theorem get?_eq_none_iff : base.get? key = none ↔ key ∉ base.map Prod.fst :=
  Keyed.lookup_eq_none_iff

theorem get?_eq_some_iff (distinct : base.AreDistinct) {value : Value} :
    base.get? key = some value ↔ (key, value) ∈ base :=
  Keyed.lookup_eq_some_iff_mem distinct

theorem get?_filter (kept : String → Bool) (entries : Entries) (key : String) :
    get? (entries.filter fun entry => kept entry.1) key =
      if kept key then entries.get? key else none :=
  Keyed.lookup_filter kept

theorem AreDistinct.filter (distinct : base.AreDistinct) (kept : String × Value → Bool) :
    AreDistinct (base.filter kept) :=
  distinct.sublist (List.filter_sublist.map Prod.fst)

theorem distinct_nil : AreDistinct [] := List.nodup_nil

@[simp] theorem merge_nil (base : Entries) : base.merge [] = base := rfl

theorem merge_cons (base : Entries) (entry : String × Value) (rest : Entries) :
    base.merge (entry :: rest) = (base.put entry.1 entry.2).merge rest := rfl

theorem AreDistinct.merge (distinct : base.AreDistinct) (further : Entries) :
    (base.merge further).AreDistinct := by
  induction further generalizing base with
  | nil => exact distinct
  | cons entry rest ih => exact ih (Keyed.nodup_keys_put entry.1 entry.2 base distinct)

/-- The later object decides. -/
theorem get?_merge (base : Entries) (distinct : further.AreDistinct) (key : String) :
    (base.merge further).get? key = (further.get? key).or (base.get? key) := by
  induction further generalizing base with
  | nil => rfl
  | cons entry rest ih =>
    obtain ⟨first, value⟩ := entry
    obtain ⟨fresh, later⟩ := List.nodup_cons.mp distinct
    rw [merge_cons, ih _ later, get?_put]
    by_cases same : key = first
    · subst same
      have absent : rest.lookup key = none := Keyed.lookup_eq_none_iff.mpr fresh
      simp [absent, get?]
    · simp [same, get?, List.lookup_cons, beq_eq_false_iff_ne.mpr same]

theorem merge_of_fresh (distinct : further.AreDistinct)
    (fresh : ∀ entry ∈ further, entry.1 ∉ base.map Prod.fst) :
    base.merge further = base ++ further := by
  induction further generalizing base with
  | nil => simp
  | cons entry rest ih =>
    obtain ⟨first, later⟩ := List.nodup_cons.mp distinct
    obtain ⟨here, there⟩ := List.forall_mem_cons.mp fresh
    have put : base.put entry.1 entry.2 = base ++ [entry] := Keyed.put_of_not_mem _ _ here
    have apart : ∀ other ∈ rest, other.1 ∉ (base ++ [entry]).map Prod.fst := by
      intro other member inside
      rw [List.map_append, List.mem_append] at inside
      rcases inside with old | new
      · exact there other member old
      · exact first (List.mem_singleton.mp new ▸ List.mem_map_of_mem member)
    rw [merge_cons, put, ih later apart, List.append_assoc, List.singleton_append]

theorem nil_merge (distinct : further.AreDistinct) : merge [] further = further :=
  merge_of_fresh distinct fun _ _ => List.not_mem_nil

theorem merge_eq_nil_iff : base.merge further = [] ↔ base = [] ∧ further = [] := by
  induction further generalizing base with
  | nil => simp
  | cons entry rest ih =>
    have filled : base.put entry.1 entry.2 ≠ [] := by
      intro empty
      have found := get?_put entry.1 entry.1 entry.2 base
      simp [empty, get?] at found
    simp [merge_cons, ih, filled]

theorem filter_merge (kept : String → Bool) (base further : Entries) :
    (base.merge further).filter (fun entry => kept entry.1) =
      merge (base.filter fun entry => kept entry.1)
        (further.filter fun entry => kept entry.1) := by
  induction further generalizing base with
  | nil => rfl
  | cons entry rest ih =>
    rw [merge_cons, ih]
    have put : (base.put entry.1 entry.2).filter (fun entry => kept entry.1) = _ :=
      Keyed.filter_put entry.1 entry.2 kept
    rw [put]
    by_cases keep : kept entry.1 = true
    · rw [if_pos keep, List.filter_cons, if_pos keep]
      rfl
    · rw [if_neg keep, List.filter_cons, if_neg keep]

end Entries

end SqlScaffold
