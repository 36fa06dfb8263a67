import SqlScaffold.Proofs.Text.Blank

/-!
Blank lines between text lines. Gaps are read off a list of numbers, one for every text line, to
which blank lines at the end add nothing.
-/

namespace SqlScaffold.Source

open Text

def textLines (lines : List String) : List String := lines.filter fun line => !allBlank line

def HasGap (lines : List String) (index size : Nat) : Prop :=
  ∃ before line blanks next after,
    lines = before ++ line :: (blanks ++ next :: after) ∧ (textLines before).length = index ∧
      allBlank line = false ∧ (∀ blank ∈ blanks, allBlank blank = true) ∧ blanks.length = size ∧
        allBlank next = false

theorem textLines_map_trimEnd (lines : List String) :
    textLines (lines.map trimEnd) = (textLines lines).map trimEnd := by
  simp only [textLines, List.filter_map, Function.comp_def, allBlank_trimEnd]

theorem textLines_append_of_blank {lines others : List String}
    (blank : ∀ line ∈ others, allBlank line = true) :
    textLines (lines ++ others) = textLines lines := by
  have textless : textLines others = [] := by
    refine List.filter_eq_nil_iff.mpr ?_
    intro line inside
    simp [blank line inside]
  rw [textLines, List.filter_append]
  exact (congrArg _ textless).trans (List.append_nil _)

section Gaps

variable {line : String} {rest : List String} {index size : Nat}

def blanksBefore (passed : Nat) : List String → List Nat
  | [] => []
  | line :: rest =>
    if allBlank line then blanksBefore (passed + 1) rest else passed :: blanksBefore 0 rest

theorem head?_blanksBefore {lines : List String} {passed : Nat} :
    (blanksBefore passed lines).head? = some size ↔ ∃ blanks next after,
      lines = blanks ++ next :: after ∧ (∀ blank ∈ blanks, allBlank blank = true) ∧
        passed + blanks.length = size ∧ allBlank next = false := by
  induction lines generalizing passed with
  | nil => simp [blanksBefore]
  | cons line rest ih =>
    rw [blanksBefore]
    by_cases blank : allBlank line = true
    · rw [if_pos blank, ih]
      constructor
      · rintro ⟨blanks, next, after, rfl, blankAll, rfl, text⟩
        refine ⟨line :: blanks, next, after, rfl, ?_, ?_, text⟩
        · exact List.forall_mem_cons.mpr ⟨blank, blankAll⟩
        · simp only [List.length_cons]
          omega
      · rintro ⟨blanks, next, after, same, blankAll, rfl, text⟩
        cases blanks with
        | nil =>
          obtain ⟨rfl, rfl⟩ := List.cons.inj same
          simp [blank] at text
        | cons first blanks =>
          obtain ⟨rfl, rfl⟩ := List.cons.inj same
          refine ⟨blanks, next, after, rfl, (List.forall_mem_cons.mp blankAll).2, ?_, text⟩
          simp only [List.length_cons]
          omega
    · rw [if_neg blank, List.head?_cons, Option.some.injEq]
      constructor
      · rintro rfl
        exact ⟨[], line, rest, rfl, by simp, by simp, by simpa using blank⟩
      · rintro ⟨blanks, next, after, same, blankAll, rfl, text⟩
        cases blanks with
        | nil => simp
        | cons first blanks =>
          obtain ⟨rfl, rfl⟩ := List.cons.inj same
          exact absurd (blankAll line List.mem_cons_self) blank

theorem hasGap_cons_of_blank (blank : allBlank line = true) :
    HasGap (line :: rest) index size ↔ HasGap rest index size := by
  constructor
  · rintro ⟨before, first, blanks, next, after, same, count, text, others⟩
    cases before with
    | nil =>
      obtain ⟨rfl, rfl⟩ := List.cons.inj same
      simp [blank] at text
    | cons head before =>
      obtain ⟨rfl, rfl⟩ := List.cons.inj same
      refine ⟨before, first, blanks, next, after, rfl, ?_, text, others⟩
      simpa [textLines, blank] using count
  · rintro ⟨before, first, blanks, next, after, rfl, count, others⟩
    refine ⟨line :: before, first, blanks, next, after, rfl, ?_, others⟩
    simpa [textLines, blank] using count

theorem hasGap_cons_zero (text : allBlank line = false) :
    HasGap (line :: rest) 0 size ↔ (blanksBefore 0 rest).head? = some size := by
  rw [head?_blanksBefore]
  constructor
  · rintro ⟨before, first, blanks, next, after, same, count, _, blankAll, length, nextText⟩
    cases before with
    | nil =>
      obtain ⟨rfl, rfl⟩ := List.cons.inj same
      exact ⟨blanks, next, after, rfl, blankAll, by omega, nextText⟩
    | cons head before =>
      obtain ⟨rfl, _⟩ := List.cons.inj same
      simp [textLines, text] at count
  · rintro ⟨blanks, next, after, rfl, blankAll, length, nextText⟩
    exact ⟨[], line, blanks, next, after, rfl, rfl, text, blankAll, by omega, nextText⟩

theorem hasGap_cons_succ (text : allBlank line = false) :
    HasGap (line :: rest) (index + 1) size ↔ HasGap rest index size := by
  constructor
  · rintro ⟨before, first, blanks, next, after, same, count, others⟩
    cases before with
    | nil => simp [textLines] at count
    | cons head before =>
      obtain ⟨rfl, rfl⟩ := List.cons.inj same
      refine ⟨before, first, blanks, next, after, rfl, ?_, others⟩
      simpa [textLines, text] using count
  · rintro ⟨before, first, blanks, next, after, rfl, count, others⟩
    refine ⟨line :: before, first, blanks, next, after, rfl, ?_, others⟩
    simpa [textLines, text] using count

theorem hasGap_iff {lines : List String} (passed : Nat) :
    HasGap lines index size ↔ (blanksBefore passed lines)[index + 1]? = some size := by
  induction lines generalizing passed index with
  | nil => simp [HasGap, blanksBefore]
  | cons line rest ih =>
    rw [blanksBefore]
    by_cases blank : allBlank line = true
    · rw [hasGap_cons_of_blank blank, if_pos blank]
      exact ih (passed + 1)
    · have text : allBlank line = false := by simpa using blank
      rw [if_neg blank, List.getElem?_cons_succ]
      cases index with
      | zero => rw [hasGap_cons_zero text, List.head?_eq_getElem?]
      | succ index =>
        rw [hasGap_cons_succ text]
        exact ih 0

theorem blanksBefore_append {lines others : List String} (passed : Nat)
    (blank : ∀ line ∈ others, allBlank line = true) :
    blanksBefore passed (lines ++ others) = blanksBefore passed lines := by
  have gapless : ∀ passed, blanksBefore passed others = [] := by
    induction others with
    | nil => exact fun _ => rfl
    | cons line rest ih =>
      obtain ⟨here, later⟩ := List.forall_mem_cons.mp blank
      intro passed
      rw [blanksBefore, if_pos here, ih later]
  induction lines generalizing passed with
  | nil => exact gapless passed
  | cons line rest ih =>
    rw [List.cons_append, blanksBefore, blanksBefore]
    split
    · exact ih (passed + 1)
    · rw [ih 0]

theorem blanksBefore_map_trimEnd (passed : Nat) (lines : List String) :
    blanksBefore passed (lines.map trimEnd) = blanksBefore passed lines := by
  induction lines generalizing passed with
  | nil => rfl
  | cons line rest ih => simp only [List.map_cons, blanksBefore, allBlank_trimEnd, ih]

end Gaps

end SqlScaffold.Source
