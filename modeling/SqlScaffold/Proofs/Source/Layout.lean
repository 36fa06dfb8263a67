import SqlScaffold.Proofs.Text.Lines
import SqlScaffold.Source.Layout

/-!
The lines of a text that starts or ends with a text of one line, and the lines that the final form
keeps as they are.
-/

namespace SqlScaffold

namespace Source

open Text

theorem splitLines_append {line : String}
    (unbroken : ∀ c ∈ line.toList, isLineBoundary c = false) (rest : String) :
    splitLines (line ++ "\n" ++ rest) = line :: splitLines rest := by
  have whole : (line ++ "\n" ++ rest).toList = line.toList ++ '\n' :: rest.toList := by simp
  rw [splitLines, whole, linesFrom_append unbroken]
  simp [splitLines]

theorem splitLines_append_start {start text : String}
    (unbroken : ∀ c ∈ start.toList, isLineBoundary c = false) (filled : text ≠ "") :
    ∃ first rest, splitLines text = first :: rest ∧
      splitLines (start ++ text) = (start ++ first) :: rest := by
  have nonempty : text.toList ≠ [] := by simpa using filled
  obtain ⟨first, rest, lines, prefixed⟩ :=
    linesFrom_append_current [] (.inr nonempty) start.toList.reverse
  refine ⟨String.ofList first, rest.map String.ofList, by simp [splitLines, lines], ?_⟩
  rw [splitLines, String.toList_append, linesFrom_append_inline unbroken]
  rw [List.nil_append] at prefixed
  simp [prefixed]

theorem splitLines_append_ending {ending : String}
    (unbroken : ∀ c ∈ ending.toList, isLineBoundary c = false) (filled : ending ≠ "")
    (text : String) : ∃ lines start, splitLines (text ++ ending) = lines ++ [start ++ ending] := by
  have nonempty : ending.toList ≠ [] := by simpa using filled
  obtain ⟨lines, start, read⟩ := linesFrom_append_last unbroken nonempty [] text.toList
  exact ⟨lines.map String.ofList, String.ofList start, by simp [splitLines, read]⟩

def IsKept (line : String) : Prop :=
  (∀ c ∈ line.toList, isLineBoundary c = false) ∧ trimEnd line = line ∧ line ≠ ""

instance (line : String) : Decidable (IsKept line) :=
  have : Decidable (∀ c ∈ line.toList, isLineBoundary c = false) :=
    List.decidableBAll _ line.toList
  inferInstanceAs (Decidable (_ ∧ _))

end Source

end SqlScaffold
