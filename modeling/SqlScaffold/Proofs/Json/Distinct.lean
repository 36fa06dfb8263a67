import SqlScaffold.Json.Reader
import SqlScaffold.Proofs.Merging
import SqlScaffold.Proofs.Outcome

/-!
Objects in documents. Whatever a document says, no object that is read from it has a key twice.
-/

namespace SqlScaffold

inductive Value.IsKeyed : Value → Prop
  | null : IsKeyed .null
  | bool (value : Bool) : IsKeyed (.bool value)
  | int (value : Int) : IsKeyed (.int value)
  | float (value : Number.Floating) : IsKeyed (.float value)
  | text (value : String) : IsKeyed (.text value)
  | list {items : List Value} : (∀ item ∈ items, IsKeyed item) → IsKeyed (.list items)
  | object {entries : Entries} : entries.AreDistinct → (∀ entry ∈ entries, IsKeyed entry.2) →
      IsKeyed (.object entries)

theorem Value.IsKeyed.empty : IsKeyed (.object []) := .object Entries.distinct_nil (by simp)

theorem Value.IsKeyed.distinct {entries : Entries} (keyed : (Value.object entries).IsKeyed) :
    entries.AreDistinct := by
  cases keyed with
  | object distinct _ => exact distinct

theorem Value.IsKeyed.get {entries : Entries} {key : String} {value : Value}
    (keyed : (Value.object entries).IsKeyed) (found : entries.get? key = some value) :
    value.IsKeyed := by
  cases keyed with
  | object distinct held => exact held _ ((Entries.get?_eq_some_iff distinct).mp found)

theorem Value.IsKeyed.put {entries : Entries} (keyed : (Value.object entries).IsKeyed)
    (key : String) {value : Value} (new : value.IsKeyed) :
    (Value.object (entries.put key value)).IsKeyed := by
  have distinct := keyed.distinct
  have still : (entries.put key value).AreDistinct :=
    Keyed.nodup_keys_put key value entries distinct
  refine .object still fun entry inside => ?_
  have found := (Entries.get?_eq_some_iff still).mpr inside
  rw [Entries.get?_put] at found
  split at found
  · cases found
    exact new
  · exact keyed.get found

namespace Json

theorem keyed_of_readName? {chars rest : List Char} {value : Value}
    (found : readName? chars = some (value, rest)) : value.IsKeyed := by
  have known : ∀ entry ∈ names, entry.2.IsKeyed := by
    simp only [names, List.forall_mem_cons, List.not_mem_nil, false_implies, implies_true, and_true]
    exact ⟨.null, .bool _, .bool _, .float _, .float _, .float _⟩
  obtain ⟨entry, named, same⟩ := Option.map_eq_some_iff.mp found
  cases same
  exact known entry (List.mem_of_find?_eq_some named)

theorem keyed_of_readNumber {chars rest : List Char} {value : Value}
    (found : readNumber chars = .ok (value, rest)) : value.IsKeyed := by
  unfold readNumber at found
  extract_lets signed whole at found
  split at found
  · cases found
  · split at found
    · obtain ⟨size, _, made⟩ := Outcome.bind_eq_ok_iff.mp found
      cases made
      exact .int _
    · cases found
      exact .float _

section Documents

variable {standIn : Char}

mutual

theorem keyed_of_readValue {depth fuel : Nat} {chars rest : List Char} {value : Value}
    (found : readValue standIn depth fuel chars = .ok (value, rest)) : value.IsKeyed := by
  cases fuel with
  | zero => cases found
  | succ fuel =>
    unfold readValue at found
    split at found
    · obtain ⟨content, _, made⟩ := Outcome.bind_eq_ok_iff.mp found
      cases made
      exact .text _
    · split at found
      · cases found
      · split at found
        · cases found
          exact .empty
        · exact keyed_of_readMembers (.empty) found
    · split at found
      · cases found
      · split at found
        · cases found
          exact .list (by simp)
        · exact keyed_of_readItems (by simp) found
    · split at found
      · next named =>
        cases found
        exact keyed_of_readName? named
      · exact keyed_of_readNumber found
termination_by fuel

theorem keyed_of_readMembers {depth fuel : Nat} {entries : Entries} {chars rest : List Char}
    {value : Value} (keyed : (Value.object entries).IsKeyed)
    (found : readMembers standIn depth fuel entries chars = .ok (value, rest)) : value.IsKeyed := by
  cases fuel with
  | zero => cases found
  | succ fuel =>
    unfold readMembers at found
    split at found
    · obtain ⟨⟨name, after⟩, _, afterName⟩ := Outcome.bind_eq_ok_iff.mp found
      dsimp only at afterName
      split at afterName
      · obtain ⟨⟨member, behind⟩, read, afterMember⟩ := Outcome.bind_eq_ok_iff.mp afterName
        have more := keyed.put (String.ofList name) (keyed_of_readValue read)
        dsimp only at afterMember
        split at afterMember
        · cases afterMember
          exact more
        · exact keyed_of_readMembers more afterMember
        · cases afterMember
      · cases afterName
    · cases found
termination_by fuel

theorem keyed_of_readItems {depth fuel : Nat} {items : List Value} {chars rest : List Char}
    {value : Value} (keyed : ∀ item ∈ items, item.IsKeyed)
    (found : readItems standIn depth fuel items chars = .ok (value, rest)) : value.IsKeyed := by
  cases fuel with
  | zero => cases found
  | succ fuel =>
    unfold readItems at found
    obtain ⟨⟨item, after⟩, read, afterItem⟩ := Outcome.bind_eq_ok_iff.mp found
    have more : ∀ other ∈ item :: items, other.IsKeyed :=
      List.forall_mem_cons.mpr ⟨keyed_of_readValue read, keyed⟩
    dsimp only at afterItem
    split at afterItem
    · cases afterItem
      exact .list fun other inside => more other (List.mem_reverse.mp inside)
    · exact keyed_of_readItems more afterItem
    · cases afterItem
termination_by fuel

end

end Documents

/-- No object in a document that is read has a key twice. -/
theorem keyed_of_read {document : String} {value : Value} (found : read document = .ok value) :
    value.IsKeyed := by
  have whole := Outcome.mapError_eq_ok_iff.mp found
  unfold readDocument at whole
  split at whole
  · cases whole
  · obtain ⟨⟨first, after⟩, read, afterFirst⟩ := Outcome.bind_eq_ok_iff.mp whole
    dsimp only at afterFirst
    split at afterFirst
    · cases afterFirst
      exact keyed_of_readValue read
    · cases afterFirst

end Json

end SqlScaffold
