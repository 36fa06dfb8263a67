import SqlScaffold.Proofs.Text.Blank
import SqlScaffold.Text.Cells

/-!
What is seen of a text on a terminal: the characters that take room and are not blank. A text that
is cut to the room of all but the blanks at its end loses none of them.
-/

namespace SqlScaffold.Text

section Cells

@[simp] theorem cells_nil : cells [] = 0 := rfl

@[simp] theorem cells_cons (c : Char) (rest : List Char) :
    cells (c :: rest) = cellsOfChar c + cells rest := rfl

@[simp] theorem cells_append (first second : List Char) :
    cells (first ++ second) = cells first + cells second := by
  induction first with
  | nil => simp
  | cons c rest ih => rw [List.cons_append, cells_cons, cells_cons, ih, Nat.add_assoc]

theorem cellsOfChar_le (c : Char) : cellsOfChar c ≤ 2 := by
  unfold cellsOfChar
  split
  · omega
  · split <;> omega

theorem cells_le (chars : List Char) : cells chars ≤ 2 * chars.length := by
  induction chars with
  | nil => exact Nat.le_refl 0
  | cons c rest ih =>
    have narrow := cellsOfChar_le c
    rw [cells_cons, List.length_cons]
    omega

theorem cells_take_le (count : Nat) (chars : List Char) :
    cells (chars.take count) ≤ cells chars := by
  have whole := congrArg cells (List.take_append_drop count chars)
  rw [cells_append] at whole
  omega

theorem cellsOfChar_of_counted {c : Char} (counted : countedRanges.contains c = true) :
    cellsOfChar c = 1 := by
  have wide : wideRanges.contains c = false :=
    Ranges.contains_eq_false_of_apart (by decide +kernel) counted
  have narrow : zeroWidthRanges.contains c = false :=
    Ranges.contains_eq_false_of_apart (by decide +kernel) counted
  simp [cellsOfChar, wide, narrow]

theorem cells_of_counted {chars : List Char}
    (counted : ∀ c ∈ chars, countedRanges.contains c = true) : cells chars = chars.length := by
  induction chars with
  | nil => rfl
  | cons c rest ih =>
    obtain ⟨here, later⟩ := List.forall_mem_cons.mp counted
    rw [cells_cons, cellsOfChar_of_counted here, ih later, List.length_cons, Nat.add_comm]

end Cells

section Seen

def isSeen (c : Char) : Bool := !isBlank c && decide (0 < cellsOfChar c)

def seen (chars : List Char) : List Char := chars.filter isSeen

@[simp] theorem seen_append (first second : List Char) :
    seen (first ++ second) = seen first ++ seen second :=
  List.filter_append first second

theorem seen_of_blank {chars : List Char} (blank : ∀ c ∈ chars, isBlank c = true) :
    seen chars = [] :=
  List.filter_eq_nil_iff.mpr fun c inside => by simp [isSeen, blank c inside]

theorem seen_of_roomless {chars : List Char} (roomless : cells chars = 0) : seen chars = [] := by
  induction chars with
  | nil => rfl
  | cons c rest ih =>
    rw [cells_cons, Nat.add_eq_zero_iff] at roomless
    simpa [seen, isSeen, roomless.1] using ih roomless.2

@[simp] theorem seen_replicate_blank (count : Nat) : seen (List.replicate count ' ') = [] := by
  refine seen_of_blank fun c inside => ?_
  rw [List.eq_of_mem_replicate inside]
  decide

@[simp] theorem seen_dropTrailingBlanks (chars : List Char) :
    seen (dropTrailingBlanks chars) = seen chars := by
  obtain ⟨blanks, whole, blank⟩ := exists_blanks chars
  have all := congrArg seen whole
  rw [seen_append, seen_of_blank blank, List.append_nil] at all
  exact all.symm

end Seen

section Cutting

variable {visible blanks : List Char} {count total : Nat}

theorem seen_take_of_length (blank : ∀ c ∈ blanks, isBlank c = true)
    (far : visible.length ≤ count) :
    seen ((visible ++ blanks).take count) = seen (visible ++ blanks) := by
  have rest : seen (blanks.take (count - visible.length)) = [] :=
    seen_of_blank fun c inside => blank c (List.mem_of_mem_take inside)
  rw [List.take_append, List.take_of_length_le far, seen_append, seen_append, rest,
    seen_of_blank blank]

/-- A beginning with the room of the visible part has all that is seen, if perhaps not the marks
without room at its end. -/
theorem seen_take_of_cells (blank : ∀ c ∈ blanks, isBlank c = true)
    (wide : cells visible ≤ cells ((visible ++ blanks).take count)) :
    seen ((visible ++ blanks).take count) = seen (visible ++ blanks) := by
  by_cases far : visible.length ≤ count
  · exact seen_take_of_length blank far
  · rw [List.take_append_of_le_length (by omega)] at wide ⊢
    have split := List.take_append_drop count visible
    have roomless : cells (visible.drop count) = 0 := by
      have summed := congrArg cells split
      rw [cells_append] at summed
      omega
    calc seen (visible.take count)
      _ = seen (visible.take count ++ visible.drop count) := by
        rw [seen_append, seen_of_roomless roomless, List.append_nil]
      _ = seen (visible ++ blanks) := by
        rw [split, seen_append, seen_of_blank blank, List.append_nil]

theorem length_lt_of_cells_lt (wide : cells visible < cells ((visible ++ blanks).take count)) :
    visible.length < ((visible ++ blanks).take count).length := by
  refine Nat.lt_of_not_le fun short => ?_
  have cut : (visible ++ blanks).take count = visible.take count := by
    rw [List.take_append, List.length_append] at short
    by_cases near : count ≤ visible.length
    · exact List.take_append_of_le_length near
    · rw [List.take_of_length_le (by omega)] at short
      have untaken : blanks.take (count - visible.length) = [] :=
        List.length_eq_zero_iff.mp (by omega)
      rw [List.take_append, untaken, List.append_nil]
  have narrow := cells_take_le count visible
  rw [cut] at wide
  omega

/-- A wide character across the end of the room is one of the blanks. -/
theorem seen_cutBetween (blank : ∀ c ∈ blanks, isBlank c = true) (fits : cells visible ≤ total)
    (fuel start stop : Nat) :
    seen (cutBetween total (visible ++ blanks) fuel start stop) = seen (visible ++ blanks) := by
  induction fuel generalizing start stop with
  | zero => rfl
  | succ fuel ih =>
    rw [cutBetween]
    split
    · next across =>
      have behind : visible.length <
          ((visible ++ blanks).take ((start + stop) / 2 + 1)).length :=
        length_lt_of_cells_lt (by omega)
      have last : seen [' '] = [] := seen_replicate_blank 1
      rw [seen_append, last, List.append_nil, List.dropLast_eq_take, List.take_take]
      exact seen_take_of_length blank (by rw [List.length_take] at behind ⊢; omega)
    · split
      · next exactly => exact seen_take_of_cells blank (by omega)
      · split
        · exact ih _ _
        · exact ih _ _

/-- A text that is cut to the room of its visible part loses nothing that is seen. -/
theorem seen_resize {chars : List Char} (fits : cells (dropTrailingBlanks chars) ≤ total) :
    seen (resize total chars) = seen chars := by
  obtain ⟨blanks, whole, blank⟩ := exists_blanks chars
  generalize dropTrailingBlanks chars = visible at fits whole
  subst whole
  unfold resize
  split
  · next counted =>
    have each := List.all_eq_true.mp counted
    have length : cells visible = visible.length :=
      cells_of_counted fun c inside => each c (List.mem_append_left blanks inside)
    rw [seen_append, seen_replicate_blank, List.append_nil, seen_take_of_length blank (by omega)]
  · split
    · next empty =>
      have roomless : cells visible = 0 := by omega
      rw [seen_append, seen_of_roomless roomless, seen_of_blank blank]
      rfl
    · split
      · rw [padTo, seen_append, seen_replicate_blank, List.append_nil]
      · exact seen_cutBetween blank fits _ _ _

end Cutting

end SqlScaffold.Text
