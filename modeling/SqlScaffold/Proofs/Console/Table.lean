import SqlScaffold.Console.Table
import SqlScaffold.Proofs.Console.Printed

/-!
Which tables can be printed: the markup of every cell has to be read, and the styles that reach a
line of a cell have to be read as well. Cells without brackets are plain.
-/

namespace SqlScaffold.Console

def StyledText.FitsColumn (cell : StyledText) (width : Nat) : Prop :=
  ∀ line ∈ cell.lines .keep width, ∀ style ∈ line.styles, IsDrawable style

theorem cellLines_ok_iff (width : Nat) (cell : StyledText) :
    (∃ lines, cellLines width cell = .ok lines) ↔ cell.FitsColumn width := by
  have drawn : (cell.lines .keep width).forM StyledText.check = .ok () ↔ cell.FitsColumn width := by
    simp only [StyledText.FitsColumn, Outcome.forM_eq_ok_iff, StyledText.check, StyledText.styles,
      List.forall_mem_map, Span.check_ok_iff]
  rw [← drawn]
  constructor
  · rintro ⟨lines, fitted⟩
    obtain ⟨_, checked, _⟩ := Outcome.bind_eq_ok_iff.mp fitted
    exact checked
  · intro checked
    exact ⟨_, Outcome.bind_eq_ok_iff.mpr ⟨(), checked, rfl⟩⟩

theorem rowLines_ok_iff (frame : Frame) (widths : Nat × Nat) (row : StyledText × StyledText) :
    (∃ lines, rowLines frame widths row = .ok lines) ↔
      row.1.FitsColumn widths.1 ∧ row.2.FitsColumn widths.2 := by
  rw [← cellLines_ok_iff, ← cellLines_ok_iff]
  constructor
  · rintro ⟨lines, drawn⟩
    obtain ⟨left, first, afterFirst⟩ := Outcome.bind_eq_ok_iff.mp drawn
    obtain ⟨right, second, _⟩ := Outcome.bind_eq_ok_iff.mp afterFirst
    exact ⟨⟨left, first⟩, ⟨right, second⟩⟩
  · rintro ⟨⟨left, first⟩, ⟨right, second⟩⟩
    exact ⟨_, Outcome.bind_eq_ok_iff.mpr ⟨left, first,
      Outcome.bind_eq_ok_iff.mpr ⟨right, second, rfl⟩⟩⟩

theorem StyledText.fitsColumn_of_unstyled (chars : List Char) (width : Nat) :
    StyledText.FitsColumn ⟨chars, []⟩ width := by
  intro line member style inside
  have plain := StyledText.styles_lines _ _ _ line member inside
  simp [StyledText.styles] at plain

def Table.headingTexts (table : Table) : StyledText × StyledText :=
  (⟨table.headings.1.toList, []⟩, ⟨table.headings.2.toList, []⟩)

def Table.widthsFor (table : Table) (firsts seconds : List StyledText) : Nat × Nat :=
  settleWidths (columnWidth (table.headingTexts.1 :: firsts),
    columnWidth (table.headingTexts.2 :: seconds))

structure Table.DrawnFrom (table : Table) (firsts seconds : List StyledText) : Prop where
  left : (table.rows.map Prod.fst).mapM StyledText.read = .ok firsts
  right : (table.rows.map Prod.snd).mapM StyledText.read = .ok seconds
  fits : ∀ row ∈ firsts.zip seconds,
    row.1.FitsColumn (table.widthsFor firsts seconds).1 ∧
      row.2.FitsColumn (table.widthsFor firsts seconds).2

def Table.Drawable (table : Table) : Prop := ∃ firsts seconds, table.DrawnFrom firsts seconds

theorem Table.lines_ok_iff (table : Table) :
    (∃ lines, table.lines = .ok lines) ↔ table.Drawable := by
  constructor
  · rintro ⟨lines, drawn⟩
    obtain ⟨firsts, readFirsts, afterFirsts⟩ := Outcome.bind_eq_ok_iff.mp drawn
    obtain ⟨seconds, readSeconds, afterSeconds⟩ := Outcome.bind_eq_ok_iff.mp afterFirsts
    obtain ⟨_, _, afterHead⟩ := Outcome.bind_eq_ok_iff.mp afterSeconds
    obtain ⟨rows, fitted, _⟩ := Outcome.bind_eq_ok_iff.mp afterHead
    refine ⟨firsts, seconds, readFirsts, readSeconds, fun row inside => ?_⟩
    exact (rowLines_ok_iff table.frame _ row).mp (Outcome.ok_of_mapM_ok fitted row inside)
  · rintro ⟨firsts, seconds, readFirsts, readSeconds, fits⟩
    obtain ⟨head, headed⟩ := (rowLines_ok_iff table.frame (table.widthsFor firsts seconds)
      table.headingTexts).mpr ⟨StyledText.fitsColumn_of_unstyled _ _,
        StyledText.fitsColumn_of_unstyled _ _⟩
    obtain ⟨rows, fitted⟩ := Outcome.mapM_ok fun row inside =>
      (rowLines_ok_iff table.frame (table.widthsFor firsts seconds) row).mpr (fits row inside)
    exact ⟨_, Outcome.bind_eq_ok_iff.mpr ⟨firsts, readFirsts,
      Outcome.bind_eq_ok_iff.mpr ⟨seconds, readSeconds,
        Outcome.bind_eq_ok_iff.mpr ⟨head, headed,
          Outcome.bind_eq_ok_iff.mpr ⟨rows, fitted, rfl⟩⟩⟩⟩⟩

theorem StyledText.read_of_plain {marked : String} (plain : '[' ∉ marked.toList) :
    StyledText.read marked = .ok ⟨printedChars marked.toList, []⟩ := by
  have unmarked : ¬marked.toList.contains '[' = true := by simpa using plain
  rw [StyledText.read, if_neg unmarked]

theorem Table.drawable_of_plain {table : Table}
    (plain : ∀ row ∈ table.rows, '[' ∉ row.1.toList ∧ '[' ∉ row.2.toList) :
    table.Drawable := by
  have unstyled : ∀ cells : List String, (∀ cell ∈ cells, '[' ∉ cell.toList) →
      cells.mapM StyledText.read =
        .ok (cells.map fun cell => ⟨printedChars cell.toList, []⟩) :=
    fun cells bare => Outcome.mapM_eq_ok_map fun cell inside =>
      StyledText.read_of_plain (bare cell inside)
  refine ⟨_, _, unstyled _ ?first, unstyled _ ?second, ?fits⟩
  case first =>
    simpa using fun cell other inside => (plain (cell, other) inside).1
  case second =>
    simpa using fun cell other inside => (plain (other, cell) inside).2
  case fits =>
    rintro ⟨first, second⟩ inside
    obtain ⟨_, here, rfl⟩ := List.mem_map.mp (List.of_mem_zip inside).1
    obtain ⟨_, there, rfl⟩ := List.mem_map.mp (List.of_mem_zip inside).2
    exact ⟨StyledText.fitsColumn_of_unstyled _ _, StyledText.fitsColumn_of_unstyled _ _⟩

end SqlScaffold.Console
