import SqlScaffold.Value

/-!
Letters in the spelling of values. No letter but that of an exponent occurs in a number, so a word
is never mistaken for one.
-/

namespace SqlScaffold

namespace Number

def numberMarks : List Char := ['.', 'e', '+', '-']

section Letter

variable {c : Char} (letter : c.isDigit = false) (unmarked : c ∉ numberMarks)

include letter in
theorem ne_zero_of_letter : c ≠ '0' := by
  rintro rfl
  cases letter

include letter in
theorem not_mem_digitsOf (value : Nat) : c ∉ digitsOf value := by
  intro inside
  have digit := Nat.isDigit_of_mem_toDigits (by decide) (by decide) inside
  rw [letter] at digit
  cases digit

include letter unmarked

theorem not_mem_exponentText (exponent : Int) : c ∉ exponentText exponent := by
  have digits := not_mem_digitsOf letter exponent.natAbs
  have zero := ne_zero_of_letter letter
  simp only [numberMarks, List.mem_cons, List.not_mem_nil, or_false, not_or] at unmarked
  unfold exponentText
  dsimp only
  split <;> split <;> simp [digits, zero, unmarked]

theorem not_mem_digitsText {digits : List Char} (absent : c ∉ digits) (point : Int) :
    c ∉ digitsText digits point := by
  have zero := ne_zero_of_letter letter
  have exponent := not_mem_exponentText letter unmarked (point - 1)
  simp only [numberMarks, List.mem_cons, List.not_mem_nil, or_false, not_or] at unmarked
  have before : c ∉ digits.take point.toNat := fun inside => absent (List.mem_of_mem_take inside)
  have behind : c ∉ digits.drop point.toNat := fun inside => absent (List.mem_of_mem_drop inside)
  unfold digitsText
  split
  · split <;> simp_all
  · split
    · simp [absent, zero, unmarked]
    · split
      · simp [before, behind, unmarked]
      · simp [absent, zero, unmarked]

theorem not_mem_chars (number : Decimal) : c ∉ number.chars := by
  have zero := ne_zero_of_letter letter
  have text := not_mem_digitsText letter unmarked (not_mem_digitsOf letter number.digits)
    ((digitsOf number.digits).length + number.exponent)
  simp only [numberMarks, List.mem_cons, List.not_mem_nil, or_false, not_or] at unmarked
  unfold Decimal.chars
  dsimp only
  split <;> split <;> simp [text, zero, unmarked]

theorem not_mem_toString (number : Int) : c ∉ (toString number).toList := by
  simp only [numberMarks, List.mem_cons, List.not_mem_nil, or_false, not_or] at unmarked
  cases number with
  | ofNat value =>
    have absent := not_mem_digitsOf letter value
    simpa [digitsOf, toString, Int.repr, Nat.repr] using absent
  | negSucc value =>
    have absent := not_mem_digitsOf letter (value + 1)
    simpa [digitsOf, toString, Int.repr, Nat.repr, unmarked] using absent

end Letter

end Number

theorem ne_class_of_not_mem {text : String} (absent : 'c' ∉ text.toList) : text ≠ "class" := by
  rintro rfl
  exact absent (by decide)

theorem Value.shown_eq_class_iff (value : Value) :
    value.shown = "class" ↔ value = .text "class" := by
  have letter : Char.isDigit 'c' = false := by decide
  have unmarked : 'c' ∉ Number.numberMarks := by decide
  cases value with
  | text content => simp [shown]
  | null => simp [shown, quoted]
  | bool flag => cases flag <;> simp [shown, quoted]
  | int number =>
    have other := ne_class_of_not_mem (Number.not_mem_toString letter unmarked number)
    simpa [shown, quoted] using other
  | float number =>
    cases number with
    | undefined => simp [shown, quoted, Number.Floating.text, floatNames]
    | infinite negative =>
      cases negative <;> simp [shown, quoted, Number.Floating.text, floatNames]
    | finite decimal =>
      have absent : 'c' ∉ (String.ofList decimal.chars).toList := by
        simpa using Number.not_mem_chars letter unmarked decimal
      have other := ne_class_of_not_mem absent
      simpa [shown, quoted, Number.Floating.text] using other
  | list items =>
    have other : shown (.list items) ≠ "class" := by
      intro same
      have chars := congrArg String.toList same
      simp [shown, quoted, String.toList_append] at chars
    simpa using other
  | object entries =>
    have other : shown (.object entries) ≠ "class" := by
      intro same
      have chars := congrArg String.toList same
      simp [shown, quoted, String.toList_append] at chars
    simpa using other

end SqlScaffold
