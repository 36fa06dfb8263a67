import SqlScaffold.Proofs.Outcome
import SqlScaffold.Proofs.Text.Blank
import SqlScaffold.Proofs.Text.Lines
import SqlScaffold.Template.Part

/-!
Indentation. A text is indented line by line, and a line that is blank stays as it is. Indenting twice
adds the widths up, and the text can be found again behind its indentation.
-/

namespace SqlScaffold

open Text

theorem Text.repeated_add (first second : Nat) (c : Char) :
    repeated (first + second) c = repeated first c ++ repeated second c := by
  simp [repeated, ← String.toList_inj]

theorem Text.allBlank_repeated (count : Nat) : allBlank (repeated count ' ') = true := by
  have blank : isBlank ' ' = true := by decide
  simp [allBlank, repeated, blank]

theorem Text.trim_eq_empty_iff_allBlank (text : String) : trim text = "" ↔ allBlank text = true := by
  rw [trim_eq_empty_iff, allBlank, List.all_eq_true]

namespace Source

def indentLine (width : Nat) (line : String) : String :=
  if trim line = "" then line else repeated width ' ' ++ line

theorem indentLines_eq (width : Nat) (lines : List String) :
    indentLines width lines = lines.map (indentLine width) := by
  refine List.map_congr_left fun line _ => ?_
  simp only [indentLine, trim_eq_empty_iff_allBlank]

theorem trim_indentLine_iff (width : Nat) (line : String) :
    trim (indentLine width line) = "" ↔ trim line = "" := by
  unfold indentLine
  split
  · rfl
  · rw [trim_eq_empty_iff_allBlank, trim_eq_empty_iff_allBlank, allBlank_append, allBlank_repeated,
      Bool.true_and]

theorem indentLine_indentLine (width further : Nat) (line : String) :
    indentLine further (indentLine width line) = indentLine (width + further) line := by
  by_cases blank : trim line = ""
  · simp [indentLine, blank]
  · have visible := mt (trim_indentLine_iff width line).mp blank
    rw [indentLine, if_neg visible, indentLine, indentLine, if_neg blank, if_neg blank,
      Nat.add_comm, repeated_add, String.append_assoc]

theorem newline_not_mem_indentLine {line : String} (unbroken : '\n' ∉ line.toList) (width : Nat) :
    '\n' ∉ (indentLine width line).toList := by
  unfold indentLine
  split
  · exact unbroken
  · simp [repeated, unbroken]

def indent (width : Nat) (text : String) : String :=
  joinWith "\n" (indentLines width (splitAtChar '\n' text))

theorem splitAtChar_indent (width : Nat) (text : String) :
    splitAtChar '\n' (indent width text) = (splitAtChar '\n' text).map (indentLine width) := by
  rw [indent, indentLines_eq]
  refine splitAtChar_joinWith ?_ ?_
  · simpa using splitAtChar_ne_nil '\n' text
  · rw [List.forall_mem_map]
    intro line inside
    refine newline_not_mem_indentLine (fun broken => ?_) width
    exact (mem_of_mem_splitAtChar inside '\n' broken).2 rfl

theorem indent_indent (width further : Nat) (text : String) :
    indent further (indent width text) = indent (width + further) text := by
  have lines : (splitAtChar '\n' text).map (indentLine further ∘ indentLine width) =
      (splitAtChar '\n' text).map (indentLine (width + further)) :=
    List.map_congr_left fun line _ => by rw [Function.comp_apply, indentLine_indentLine]
  rw [indent, splitAtChar_indent, indentLines_eq, List.map_map, lines, ← indentLines_eq, indent]

def outdentLine (width : Nat) (line : String) : String :=
  if trim line = "" then line else String.ofList (line.toList.drop width)

theorem outdentLine_indentLine (width : Nat) (line : String) :
    outdentLine width (indentLine width line) = line := by
  by_cases blank : trim line = ""
  · simp [outdentLine, indentLine, blank]
  · have visible := mt (trim_indentLine_iff width line).mp blank
    rw [outdentLine, if_neg visible, indentLine, if_neg blank, ← String.toList_inj]
    simp [repeated]

def outdent (width : Nat) (text : String) : String :=
  joinWith "\n" ((splitAtChar '\n' text).map (outdentLine width))

theorem outdent_indent (width : Nat) (text : String) :
    outdent width (indent width text) = text := by
  have same : outdentLine width ∘ indentLine width = id := by
    funext line
    rw [Function.comp_apply, outdentLine_indentLine, id_eq]
  rw [outdent, splitAtChar_indent, List.map_map, same, List.map_id]
  exact joinWith_splitAtChar '\n' text

end Source

namespace Template

open Source

theorem writeIndented_lines (size : Except RenderError Value) (lines : List String) :
    writeIndented size (.list (lines.map .text)) =
      (size >>= countOf).map fun width => joinWith "\n" (indentLines width lines) := by
  have read : (lines.map Value.text).mapM lineOf = .ok lines := by
    rw [List.mapM_map]
    have each : lines.mapM (lineOf ∘ Value.text) = .ok (lines.map id) :=
      Outcome.mapM_eq_ok_map fun _ _ => rfl
    rwa [List.map_id] at each
  simp only [writeIndented, membersOf, Value.members?]
  cases size >>= countOf with
  | error error => rfl
  | ok width =>
    simp [read, bind, Except.bind, Except.map]

theorem writeIndented_text (size : Except RenderError Value) (text : String) :
    writeIndented size (.text text) = (size >>= countOf).map fun width => indent width text :=
  writeIndented_lines size (splitAtChar '\n' text)

theorem countOf_of_room {width : Nat} (room : (width : Int) < roomLimit) :
    countOf (.int width) = .ok width := by
  have countable : ¬((width : Int) < -countLimit ∨ countLimit ≤ width) := by
    simp only [roomLimit, countLimit] at *
    omega
  simp [countOf, blankCount, countable, Int.not_le.mpr room]

theorem writeIndented_int {width : Nat} (room : (width : Int) < roomLimit) (text : String) :
    writeIndented (.ok (.int width)) (.text text) = .ok (indent width text) := by
  rw [writeIndented_text]
  simp [countOf_of_room room, bind, Except.bind, Except.map]

theorem writeIndented_int_lines {width : Nat} (room : (width : Int) < roomLimit)
    (lines : List String) :
    writeIndented (.ok (.int width)) (.list (lines.map .text)) =
      .ok (joinWith "\n" (lines.map (indentLine width))) := by
  rw [writeIndented_lines, ← indentLines_eq]
  simp [countOf_of_room room, bind, Except.bind, Except.map]

/-- What becomes of a text that is indented: what is written, from the text or from its lines; its
lines; and how it is indented further and outdented. -/
structure IndentsLines (text : String) (width : Nat) : Prop where
  listed : ∀ size, writeIndented size (.text text) =
    writeIndented size (.list ((splitAtChar '\n' text).map .text))
  written : writeIndented (.ok (.int width)) (.text text) = .ok (indent width text)
  fromLines : ∀ lines : List String, writeIndented (.ok (.int width)) (.list (lines.map .text)) =
    .ok (joinWith "\n" (lines.map (indentLine width)))
  lines : splitAtChar '\n' (indent width text) = (splitAtChar '\n' text).map (indentLine width)
  further : ∀ more, indent more (indent width text) = indent (width + more) text
  together : ∀ more : Nat, ((width + more : Nat) : Int) < roomLimit →
    (writeIndented (.ok (.int width)) (.text text) >>= fun once =>
      writeIndented (.ok (.int more)) (.text once)) =
        writeIndented (.ok (.int (width + more : Nat))) (.text text)
  outdented : outdent width (indent width text) = text

/-- Where so many blanks can be held, a text is written with every line that is not blank behind
exactly `width` of them. -/
theorem indent_indentsLines (text : String) (width : Nat) (room : (width : Int) < roomLimit) :
    IndentsLines text width where
  listed _ := rfl
  written := writeIndented_int room text
  fromLines := writeIndented_int_lines room
  lines := splitAtChar_indent width text
  further more := indent_indent width more text
  together := by
    intro more both
    have less : (more : Int) < roomLimit := by omega
    rw [writeIndented_int room, writeIndented_int both]
    simp only [bind, Except.bind]
    rw [writeIndented_int less, indent_indent]
  outdented := outdent_indent width text

/-- A blank line between two others. -/
theorem indent_indentsLines_two :
    ((2 : Nat) : Int) < roomLimit ∧ IndentsLines "a\n \nb" 2 ∧
      writeIndented (.ok (.int 2)) (.text "a\n \nb") = .ok "  a\n \n  b" := by
  have room : ((2 : Nat) : Int) < roomLimit := by decide
  have indented := indent_indentsLines "a\n \nb" 2 room
  have expected : indent 2 "a\n \nb" = "  a\n \n  b" := by decide +kernel
  exact ⟨room, indented, indented.written.trans (congrArg Except.ok expected)⟩

end Template

end SqlScaffold
