import SqlScaffold.Proofs.Source.TypeName

/-!
Names as the check of identifiers takes them. A name has to have the form of an identifier as a
whole, but the check passes over one line feed at its end, so that a word and a line feed are let
through as well.
-/

namespace SqlScaffold.Source

def IsLetter (c : Char) : Prop :=
  ('A' ≤ c ∧ c ≤ 'Z') ∨ ('a' ≤ c ∧ c ≤ 'z') ∨ c = '_' ∨ c = '$'

def HasForm (name : String) : Prop :=
  ∃ first rest, name.toList = first :: rest ∧ IsLetter first ∧
    ∀ c ∈ rest, IsLetter c ∨ ('0' ≤ c ∧ c ≤ '9')

def HasLooseForm (name : String) : Prop :=
  HasForm name ∨ ∃ word, HasForm word ∧ name = word ++ "\n"

theorem isWordStart_iff {c : Char} : isWordStart c = true ↔ IsLetter c := by
  unfold isWordStart Char.isAlpha Char.isUpper Char.isLower
  simp only [IsLetter, Bool.or_eq_true, Bool.and_eq_true, decide_eq_true_eq, beq_iff_eq, ge_iff_le,
    Char.le_def, or_assoc]

theorem isWordPart_iff {c : Char} :
    isWordPart c = true ↔ IsLetter c ∨ ('0' ≤ c ∧ c ≤ '9') := by
  have digit : c.isDigit = true ↔ '0' ≤ c ∧ c ≤ '9' := by
    simp only [Char.isDigit, Bool.and_eq_true, decide_eq_true_eq, ge_iff_le, Char.le_def]
  rw [← isWordStart_iff, ← digit]
  simp only [isWordPart, isWordStart, Char.isAlphanum, Bool.or_eq_true]
  tauto

theorem isWord_iff_hasForm {name : String} : isWord name.toList = true ↔ HasForm name := by
  unfold HasForm
  cases name.toList with
  | nil => simp [isWord]
  | cons first rest =>
    simp only [isWord, Bool.and_eq_true, List.all_eq_true, isWordStart_iff, isWordPart_iff,
      List.cons.injEq]
    constructor
    · rintro ⟨letter, later⟩
      exact ⟨first, rest, ⟨rfl, rfl⟩, letter, later⟩
    · rintro ⟨_, _, ⟨rfl, rfl⟩, letter, later⟩
      exact ⟨letter, later⟩

theorem newline_not_mem {name : String} (formed : HasForm name) : '\n' ∉ name.toList :=
  not_mem_of_isWord (isWord_iff_hasForm.mpr formed) (by decide) (by decide)

def EndsInNewline (name : String) : Prop := name.toList.getLast? = some '\n'

instance (name : String) : Decidable (EndsInNewline name) := inferInstanceAs (Decidable (_ = _))

theorem isWord_dropFinalNewline {name : String} :
    isWord (dropFinalNewline name.toList) = true ↔ HasLooseForm name := by
  unfold dropFinalNewline HasLooseForm
  split
  · next ended =>
    obtain ⟨before, split⟩ := List.getLast?_eq_some_iff.mp ended
    have broken : ¬HasForm name := fun formed => newline_not_mem formed (by simp [split])
    have word : isWord before = true ↔ HasForm (String.ofList before) := by
      rw [← isWord_iff_hasForm, String.toList_ofList]
    rw [split, List.dropLast_concat, word, or_iff_right broken]
    constructor
    · intro formed
      exact ⟨_, formed, by rw [← String.toList_inj, split]; simp⟩
    · rintro ⟨other, formed, rfl⟩
      rw [String.toList_append] at split
      obtain ⟨same, _⟩ := List.append_inj' split rfl
      rwa [← same, String.ofList_toList]
  · next unended =>
    rw [isWord_iff_hasForm, or_iff_left]
    rintro ⟨word, _, rfl⟩
    exact unended (by simp [String.toList_append])

/-- A name that the check passes over is a word, or a word and a line feed; besides it is not
reserved. -/
theorem nameProblems_eq_nil_iff {name : String} :
    nameProblems name = [] ↔ HasLooseForm name ∧ name ∉ reservedWords := by
  rw [nameProblems, List.append_eq_nil_iff, ← isWord_dropFinalNewline]
  simp

/-- A name has the form as a whole if the check lets it through and it ends no line. -/
theorem hasForm_iff {name : String} : HasForm name ↔ HasLooseForm name ∧ ¬EndsInNewline name := by
  constructor
  · intro formed
    exact ⟨.inl formed, fun ended => newline_not_mem formed (List.mem_of_getLast? ended)⟩
  · rintro ⟨formed | ⟨word, _, rfl⟩, unended⟩
    · exact formed
    · exact absurd (by simp [EndsInNewline, String.toList_append]) unended

end SqlScaffold.Source
