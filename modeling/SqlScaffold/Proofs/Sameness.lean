import SqlScaffold.Value

/-!
Values that are the same. What one of two such objects has under a key, the other has too, and none
of the two is deeper, so that no object is the same as a value inside it.
-/

namespace SqlScaffold

mutual

def Value.depth : Value → Nat
  | .list items => Value.depthOfItems items + 1
  | .object entries => Value.depthOfEntries entries + 1
  | _ => 0

def Value.depthOfItems : List Value → Nat
  | [] => 0
  | item :: rest => max item.depth (Value.depthOfItems rest)

def Value.depthOfEntries : List (String × Value) → Nat
  | [] => 0
  | (_, value) :: rest => max value.depth (Value.depthOfEntries rest)

end

theorem Value.depth_le_of_get? {entries : Entries} {key : String} {value : Value}
    (found : entries.get? key = some value) : value.depth ≤ depthOfEntries entries := by
  induction entries with
  | nil => simp [Entries.get?] at found
  | cons entry rest ih =>
    obtain ⟨first, held⟩ := entry
    simp only [Entries.get?, List.lookup_cons] at found
    split at found
    · cases found
      exact Nat.le_max_left _ _
    · exact Nat.le_trans (ih found) (Nat.le_max_right _ _)

mutual

theorem Value.depth_le_of_same {left right : Value} (same : left.same right = true) :
    left.depth ≤ right.depth := by
  cases left with
  | list items =>
    cases right <;> simp only [Value.same, Value.asInt?, Bool.false_eq_true] at same
    next others => exact Nat.succ_le_succ (Value.depth_le_of_sameItems same)
  | object entries =>
    cases right <;> simp only [Value.same, Value.asInt?, Bool.false_eq_true] at same
    next others =>
      exact Nat.succ_le_succ
        (Value.depth_le_of_sameEntries (Bool.and_eq_true_iff.mp same).2)
  | _ => exact Nat.zero_le _

theorem Value.depth_le_of_sameItems {lefts rights : List Value}
    (same : Value.sameItems lefts rights = true) :
    Value.depthOfItems lefts ≤ Value.depthOfItems rights := by
  cases lefts with
  | nil => exact Nat.zero_le _
  | cons left lefts =>
    cases rights with
    | nil => simp [Value.sameItems] at same
    | cons right rights =>
      obtain ⟨first, later⟩ := Bool.and_eq_true_iff.mp same
      have head := Value.depth_le_of_same first
      have tail := Value.depth_le_of_sameItems later
      simp only [Value.depthOfItems]
      omega

theorem Value.depth_le_of_sameEntries {lefts rights : List (String × Value)}
    (same : Value.sameEntries lefts rights = true) :
    Value.depthOfEntries lefts ≤ Value.depthOfEntries rights := by
  cases lefts with
  | nil => exact Nat.zero_le _
  | cons entry lefts =>
    obtain ⟨key, value⟩ := entry
    obtain ⟨first, later⟩ := Bool.and_eq_true_iff.mp same
    split at first
    · next other found =>
      have head := Value.depth_le_of_same first
      have inside := Value.depth_le_of_get? found
      have tail := Value.depth_le_of_sameEntries later
      simp only [Value.depthOfEntries]
      omega
    · cases first

end

theorem Value.same_of_sameEntries {left right : Entries} {key : String} {value : Value}
    (same : Value.sameEntries left right = true) (inside : (key, value) ∈ left) :
    ∃ other, right.get? key = some other ∧ value.same other = true := by
  induction left with
  | nil => cases inside
  | cons entry rest ih =>
    obtain ⟨first, later⟩ := Bool.and_eq_true_iff.mp same
    rcases List.mem_cons.mp inside with rfl | behind
    · split at first
      · next other there => exact ⟨other, there, first⟩
      · cases first
    · exact ih later behind

theorem Value.not_same_of_get? {entries : Entries} {key : String} {value : Value}
    (found : entries.get? key = some value) : Value.same (.object entries) value = false := by
  refine Bool.eq_false_iff.mpr fun same => ?_
  have above := Value.depth_le_of_same same
  have below := Value.depth_le_of_get? found
  rw [Value.depth] at above
  omega

end SqlScaffold
