import SqlScaffold.Proofs.Console.Shown
import SqlScaffold.Proofs.Text.Lines
import SqlScaffold.Proofs.Text.Seen

/-!
Texts as lines on the console. Breaking a text into lines takes only blanks from it: what is seen of
the lines, one after the other, is what is seen of the text.
-/

namespace SqlScaffold.Console

open Text

def linesOf (chars : List Char) : List String :=
  (StyledText.lines .chop consoleWidth ⟨chars, []⟩).map fun line => finishLine line.chars

section Characters

def spreadTabs (stop : Nat) (line : List Char) : List Char :=
  if line.contains '\t' then (tabPieces line).flatMap (expandTabs cellsOfChar stop 0) else line

def cutLine (width : Nat) (line : List Char) : List Char :=
  let kept := line.take (max width (dropTrailingBlanks line).length)
  if cells kept ≤ width then kept else resize width kept

theorem StyledText.chars_foldr_append (pieces : List StyledText) :
    (pieces.foldr StyledText.append ⟨[], []⟩).chars = pieces.flatMap StyledText.chars := by
  induction pieces with
  | nil => rfl
  | cons piece rest ih => rw [List.foldr_cons, List.flatMap_cons, ← ih, StyledText.append]

theorem StyledText.chars_expandTabs (stop : Nat) (line : StyledText) :
    (line.expandTabs stop).chars = spreadTabs stop line.chars := by
  unfold StyledText.expandTabs spreadTabs
  split
  · rw [StyledText.chars_foldr_append, List.flatMap_map,
      ← map_chars_spansOver line.spans 0 0 (tabPieces line.chars), List.flatMap_map,
      map_chars_spansOver]
    rfl
  · rfl

theorem StyledText.chars_fit_dropBlanksBeyond (width : Nat) (piece : StyledText) :
    ((piece.dropBlanksBeyond width).fit width false).chars = cutLine width piece.chars := by
  rw [StyledText.fit, if_neg Bool.false_ne_true, apply_ite StyledText.chars]
  rfl

theorem eq_of_splitChars {separator : Char} {chars piece : List Char}
    (split : splitChars separator chars = [piece]) : piece = chars := by
  have joined := joinWith_splitChars separator chars
  rw [split] at joined
  exact String.ofList_injective joined

end Characters

section Breaking

theorem flatten_wordsFrom (held chars : List Char) :
    (wordsFrom held chars = [] ∧ ∀ c ∈ held.reverse ++ chars, isBlank c = true) ∨
      (wordsFrom held chars ≠ [] ∧ (wordsFrom held chars).flatten = held.reverse ++ chars) := by
  induction chars generalizing held with
  | nil =>
    rw [wordsFrom]
    split
    · next blank => exact .inl ⟨rfl, by simpa using blank⟩
    · exact .inr (by simp)
  | cons c rest ih =>
    rw [wordsFrom]
    split
    · next ends =>
      have visible : isBlank c = false := by
        simp only [Bool.and_eq_true, Bool.not_eq_true'] at ends
        exact ends.1.1
      rcases ih [c] with ⟨_, blank⟩ | ⟨_, whole⟩
      · have spaced := blank c (by simp)
        rw [visible] at spaced
        cases spaced
      · exact .inr ⟨List.cons_ne_nil _ _, by rw [List.flatten_cons, whole]; rfl⟩
    · simpa using ih (c :: held)

theorem flatten_chopFrom (width used : Nat) (held chars : List Char) :
    (chopFrom width used held chars).flatten = held.reverse ++ chars := by
  induction chars generalizing used held with
  | nil => simp [chopFrom]
  | cons c rest ih =>
    rw [chopFrom]
    split
    · rw [List.flatten_cons, ih, List.reverse_singleton, List.singleton_append]
    · rw [ih, List.reverse_cons, List.append_assoc, List.singleton_append]

def Filling.text (filling : Filling) : List Char := filling.finished.flatten ++ filling.current

theorem Filling.text_startLine (filling : Filling) (piece : List Char) :
    (filling.startLine piece).text = filling.text ++ piece := by
  unfold Filling.startLine Filling.text
  split
  · next empty => simp [List.isEmpty_iff.mp empty]
  · simp

theorem Filling.text_foldl_startLine (filling : Filling) (pieces : List (List Char)) :
    (pieces.foldl Filling.startLine filling).text = filling.text ++ pieces.flatten := by
  induction pieces generalizing filling with
  | nil => simp
  | cons piece rest ih =>
    rw [List.foldl_cons, ih, Filling.text_startLine, List.flatten_cons, List.append_assoc]

theorem Filling.text_place (wide : WideWord) (width : Nat) (filling : Filling) (word : List Char) :
    (filling.place wide width word).text = filling.text ++ word := by
  unfold Filling.place
  dsimp only
  split
  · simp [Filling.text]
  · split
    · split
      · rw [Filling.text_foldl_startLine, flatten_chopFrom, List.reverse_nil, List.nil_append]
      · exact filling.text_startLine word
    · split
      · simp [Filling.text]
      · exact filling.text_startLine word

theorem Filling.text_foldl_place (wide : WideWord) (width : Nat) (filling : Filling)
    (words : List (List Char)) :
    (words.foldl (Filling.place wide width) filling).text = filling.text ++ words.flatten := by
  induction words generalizing filling with
  | nil => simp
  | cons word rest ih =>
    rw [List.foldl_cons, ih, Filling.text_place, List.flatten_cons, List.append_assoc]

theorem flatten_wrap (wide : WideWord) (width : Nat) (line : List Char) :
    (wrap wide width line).flatten = line := by
  unfold wrap
  split
  · simp
  · next worded =>
    obtain ⟨_, whole⟩ := (flatten_wordsFrom [] line).resolve_left fun wordless => worded wordless.1
    have filled := Filling.text_foldl_place wide width ⟨[], [], 0⟩ (wordsFrom [] line)
    rw [whole] at filled
    simpa [Filling.text] using filled

end Breaking

section Lines

theorem StyledText.map_chars_pieces (width : Nat) (line : StyledText) :
    ((line.divide 0 (wrap .chop width line.chars)).map fun piece =>
      (piece.dropBlanksBeyond width).fit width false).map StyledText.chars =
        (wrap .chop width line.chars).map (cutLine width) := by
  have whole := StyledText.chars_divide line 0 (wrap .chop width line.chars) fun piece alone => by
    rw [← flatten_wrap .chop width line.chars, alone, List.flatten_singleton]
  calc ((line.divide 0 (wrap .chop width line.chars)).map fun piece =>
        (piece.dropBlanksBeyond width).fit width false).map StyledText.chars
    _ = (line.divide 0 (wrap .chop width line.chars)).map fun piece =>
        cutLine width piece.chars := by
      simp only [List.map_map, Function.comp_def, StyledText.chars_fit_dropBlanksBeyond]
    _ = ((line.divide 0 (wrap .chop width line.chars)).map StyledText.chars).map
        (cutLine width) := by rw [List.map_map, Function.comp_def]
    _ = (wrap .chop width line.chars).map (cutLine width) := by rw [whole]

/-- What is printed of a text depends on its characters only. -/
theorem StyledText.map_chars_lines (width : Nat) (text : StyledText) :
    (text.lines .chop width).map StyledText.chars =
      (splitChars '\n' text.chars).flatMap fun line =>
        (wrap .chop width (spreadTabs 8 line)).map (cutLine width) := by
  have divided := StyledText.chars_divide text 1 (splitChars '\n' text.chars) fun piece alone =>
    eq_of_splitChars alone
  calc (text.lines .chop width).map StyledText.chars
    _ = (text.divide 1 (splitChars '\n' text.chars)).flatMap fun line =>
        (wrap .chop width (spreadTabs 8 line.chars)).map (cutLine width) := by
      rw [StyledText.lines, List.map_flatMap]
      simp only [reduceCtorEq, decide_false, StyledText.map_chars_pieces]
      simp only [StyledText.chars_expandTabs]
    _ = ((text.divide 1 (splitChars '\n' text.chars)).map StyledText.chars).flatMap fun line =>
        (wrap .chop width (spreadTabs 8 line)).map (cutLine width) := by rw [List.flatMap_map]
    _ = (splitChars '\n' text.chars).flatMap fun line =>
        (wrap .chop width (spreadTabs 8 line)).map (cutLine width) := by rw [divided]

theorem linesOf_eq (chars : List Char) :
    linesOf chars = ((splitChars '\n' chars).flatMap fun line =>
      (wrap .chop consoleWidth (spreadTabs 8 line)).map (cutLine consoleWidth)).map finishLine := by
  rw [linesOf, ← StyledText.map_chars_lines consoleWidth ⟨chars, []⟩, List.map_map,
    Function.comp_def]

theorem lines_of_printedLines {marked : String} {lines : List String}
    (printed : printedLines marked = .ok lines) : lines = linesOf (shown marked.toList) := by
  obtain ⟨text, read, afterText⟩ := Outcome.bind_eq_ok_iff.mp printed
  obtain ⟨_, _, same⟩ := Outcome.bind_eq_ok_iff.mp afterText
  cases same
  rw [linesOf_eq, ← chars_of_read read, ← StyledText.map_chars_lines, List.map_map,
    Function.comp_def]

end Lines

section Fitting

theorem cells_dropTrailingBlanks_le (chars : List Char) :
    cells (dropTrailingBlanks chars) ≤ cells chars := by
  obtain ⟨blanks, whole, _⟩ := exists_blanks chars
  have summed := congrArg cells whole
  rw [cells_append] at summed
  omega

structure Filling.Fits (filling : Filling) (width : Nat) : Prop where
  finished : ∀ line ∈ filling.finished, cells (dropTrailingBlanks line) ≤ width
  current : cells (dropTrailingBlanks filling.current) ≤ width
  used : filling.used = cells filling.current

variable {filling : Filling} {width : Nat}

theorem Filling.Fits.startLine (fits : filling.Fits width) {piece : List Char}
    (room : cells (dropTrailingBlanks piece) ≤ width) : (filling.startLine piece).Fits width where
  finished := by
    unfold Filling.startLine
    split
    · exact fits.finished
    · intro line inside
      rcases List.mem_append.mp inside with before | last
      · exact fits.finished line before
      · rw [List.mem_singleton.mp last]
        exact fits.current
  current := room
  used := rfl

theorem Filling.Fits.foldl_startLine (fits : filling.Fits width) {pieces : List (List Char)}
    (room : ∀ piece ∈ pieces, cells (dropTrailingBlanks piece) ≤ width) :
    (pieces.foldl Filling.startLine filling).Fits width := by
  induction pieces generalizing filling with
  | nil => exact fits
  | cons piece rest ih =>
    obtain ⟨here, later⟩ := List.forall_mem_cons.mp room
    exact ih (fits.startLine here) later

theorem cells_reverse (chars : List Char) : cells chars.reverse = cells chars := by
  induction chars with
  | nil => rfl
  | cons c rest ih =>
    rw [List.reverse_cons, cells_append, ih, cells_cons, cells_cons, cells_nil]
    omega

/-- A piece of a word fits, since no character is wider than two cells. -/
theorem cells_le_of_mem_chopFrom (wide : 2 ≤ width) {used : Nat} {held chars : List Char}
    (counted : used = cells held) (room : used ≤ width) :
    ∀ piece ∈ chopFrom width used held chars, cells piece ≤ width := by
  induction chars generalizing used held with
  | nil =>
    intro piece inside
    rw [chopFrom, List.mem_singleton] at inside
    rw [inside, cells_reverse]
    omega
  | cons c rest ih =>
    have narrow := cellsOfChar_le c
    rw [chopFrom]
    split
    · refine List.forall_mem_cons.mpr ⟨by rw [cells_reverse]; omega, ih ?_ (by omega)⟩
      rw [cells_cons, cells_nil, Nat.add_zero]
    · exact ih (by rw [cells_cons]; omega) (by omega)

theorem cells_dropTrailingBlanks_append_le (first second : List Char) :
    cells (dropTrailingBlanks (first ++ second)) ≤
      max (cells (dropTrailingBlanks first)) (cells first + cells (dropTrailingBlanks second)) := by
  rw [dropTrailingBlanks_append]
  split
  · omega
  · rw [cells_append]
    omega

theorem Filling.Fits.place (fits : filling.Fits width) (wide : 2 ≤ width) (word : List Char) :
    (filling.place .chop width word).Fits width := by
  have used := fits.used
  have current := fits.current
  unfold Filling.place
  dsimp only
  split
  · next room =>
    have longer := cells_dropTrailingBlanks_append_le filling.current word
    exact ⟨fits.finished, by dsimp only; omega, by dsimp only; rw [cells_append]; omega⟩
  · split
    · refine fits.foldl_startLine fun piece inside => ?_
      have narrow := cells_le_of_mem_chopFrom wide cells_nil.symm (Nat.zero_le width) piece inside
      exact Nat.le_trans (cells_dropTrailingBlanks_le piece) narrow
    · next wide narrow =>
      rw [if_neg (by omega)]
      exact fits.startLine (by omega)

theorem Filling.Fits.foldl_place (fits : filling.Fits width) (wide : 2 ≤ width)
    (words : List (List Char)) :
    (words.foldl (Filling.place .chop width) filling).Fits width := by
  induction words generalizing filling with
  | nil => exact fits
  | cons word rest ih => exact ih (fits.place wide word)

theorem cells_le_of_mem_wrap (wide : 2 ≤ width) {line : List Char} :
    ∀ piece ∈ wrap .chop width line, cells (dropTrailingBlanks piece) ≤ width := by
  unfold wrap
  split
  · next wordless =>
    obtain ⟨_, blank⟩ := (flatten_wordsFrom [] line).resolve_right fun worded => worded.1 wordless
    intro piece inside
    rw [List.mem_singleton.mp inside, (dropTrailingBlanks_eq_nil_iff line).mpr blank]
    exact Nat.zero_le _
  · have empty : Filling.Fits ⟨[], [], 0⟩ width := ⟨by simp, Nat.zero_le _, rfl⟩
    have fits := empty.foldl_place wide (wordsFrom [] line)
    intro piece inside
    rcases List.mem_append.mp inside with before | last
    · exact fits.finished piece before
    · rw [List.mem_singleton.mp last]
      exact fits.current

end Fitting

section Seen

theorem seen_flatten (pieces : List (List Char)) : seen pieces.flatten = pieces.flatMap seen := by
  induction pieces with
  | nil => rfl
  | cons piece rest ih => rw [List.flatten_cons, seen_append, ih, List.flatMap_cons]

theorem flatMap_seen_splitChars {separator : Char} (blank : isBlank separator = true)
    (chars : List Char) : (splitChars separator chars).flatMap seen = seen chars := by
  induction chars with
  | nil => rfl
  | cons c rest ih =>
    obtain ⟨first, others, split⟩ := List.exists_cons_of_ne_nil (splitChars_ne_nil separator rest)
    rw [split] at ih
    by_cases same : c = separator
    · simpa [splitChars, same, split, seen, isSeen, blank] using ih
    · by_cases visible : isSeen c = true
      · simpa [splitChars, same, split, seen, visible] using ih
      · simpa [splitChars, same, split, seen, visible] using ih

theorem seen_expandTabs (room : Char → Nat) (stop column : Nat) (chars : List Char) :
    seen (expandTabs room stop column chars) = seen chars := by
  induction chars generalizing column with
  | nil => rfl
  | cons c rest ih =>
    rw [expandTabs]
    split
    · next tab =>
      have blank : isSeen '\t' = false := by decide
      rw [seen_append, seen_replicate_blank, ih, tab]
      simp [seen, blank]
    · by_cases visible : isSeen c = true
      · simpa [seen, visible] using ih _
      · simpa [seen, visible] using ih _

theorem flatMap_seen_tabPieces (line : List Char) : (tabPieces line).flatMap seen = seen line := by
  obtain ⟨before, last, split⟩ :=
    (List.eq_nil_or_concat (splitChars '\t' line)).resolve_left (splitChars_ne_nil '\t' line)
  rw [List.concat_eq_append] at split
  have tab : seen ['\t'] = [] := seen_of_blank (List.forall_mem_singleton.mpr (by decide))
  have whole := flatMap_seen_splitChars (by decide : isBlank '\t' = true) line
  rw [split, List.flatMap_append, List.flatMap_singleton] at whole
  rw [tabPieces, split, ← whole]
  by_cases empty : last = []
  · have unseen : seen [] = [] := rfl
    simp [List.flatMap_map, tab, unseen, empty, Option.filter]
  · simp [List.flatMap_map, tab, empty, Option.filter]

theorem seen_spreadTabs (stop : Nat) (line : List Char) :
    seen (spreadTabs stop line) = seen line := by
  unfold spreadTabs
  split
  · rw [List.flatMap_def, seen_flatten, List.flatMap_map, ← flatMap_seen_tabPieces line]
    simp only [seen_expandTabs]
  · rfl

theorem seen_cutLine {width : Nat} {line : List Char}
    (fits : cells (dropTrailingBlanks line) ≤ width) : seen (cutLine width line) = seen line := by
  have far : (dropTrailingBlanks line).length ≤ max width (dropTrailingBlanks line).length :=
    Nat.le_max_right _ _
  have kept : seen (line.take (max width (dropTrailingBlanks line).length)) = seen line := by
    rw [← seen_dropTrailingBlanks, dropTrailingBlanks_take far, seen_dropTrailingBlanks]
  unfold cutLine
  dsimp only
  split
  · exact kept
  · rw [seen_resize (by rwa [dropTrailingBlanks_take far]), kept]

/-- Whatever is seen of a text is seen of its lines, in the same order. -/
theorem seen_linesOf (chars : List Char) :
    (linesOf chars).flatMap (fun line => seen line.toList) = seen chars := by
  have finished (line : List Char) : seen (finishLine line).toList = seen line := by
    rw [finishLine, String.toList_ofList, seen_dropTrailingBlanks]
  have wrapped (line : List Char) :
      ((wrap .chop consoleWidth (spreadTabs 8 line)).map (cutLine consoleWidth)).flatMap seen =
        seen line := by
    calc ((wrap .chop consoleWidth (spreadTabs 8 line)).map (cutLine consoleWidth)).flatMap seen
      _ = ((wrap .chop consoleWidth (spreadTabs 8 line)).map seen).flatten := by
        rw [List.flatMap_def, List.map_map]
        refine congrArg List.flatten (List.map_congr_left fun piece inside => ?_)
        exact seen_cutLine (cells_le_of_mem_wrap (by decide) piece inside)
      _ = seen line := by
        rw [← List.flatMap_def, ← seen_flatten, flatten_wrap, seen_spreadTabs]
  calc (linesOf chars).flatMap (fun line => seen line.toList)
    _ = ((splitChars '\n' chars).flatMap fun line =>
        (wrap .chop consoleWidth (spreadTabs 8 line)).map (cutLine consoleWidth)).flatMap seen := by
      rw [linesOf_eq, List.flatMap_map]
      simp only [finished]
    _ = (splitChars '\n' chars).flatMap seen := by
      rw [List.flatMap_assoc]
      simp only [wrapped]
    _ = seen chars := flatMap_seen_splitChars (by decide) chars

end Seen

section Whole

variable {width : Nat}

theorem foldl_place_of_fits (wide : WideWord) {filling : Filling} {words : List (List Char)}
    (fits : filling.used + cells words.flatten ≤ width) :
    words.foldl (Filling.place wide width) filling =
      ⟨filling.finished, filling.current ++ words.flatten, filling.used + cells words.flatten⟩ := by
  induction words generalizing filling with
  | nil => simp
  | cons word rest ih =>
    rw [List.flatten_cons, cells_append] at fits
    have narrow := cells_dropTrailingBlanks_le word
    have placed : filling.place wide width word =
        ⟨filling.finished, filling.current ++ word, filling.used + cells word⟩ := by
      exact if_pos (by omega)
    rw [List.foldl_cons, placed, ih (by dsimp only; omega)]
    simp [Nat.add_assoc]

theorem wrap_of_fits (wide : WideWord) {line : List Char} (fits : cells line ≤ width) :
    wrap wide width line = [line] := by
  unfold wrap
  split
  · rfl
  · next worded =>
    obtain ⟨_, whole⟩ := (flatten_wordsFrom [] line).resolve_left fun wordless => worded wordless.1
    rw [List.reverse_nil, List.nil_append] at whole
    have room : Filling.used ⟨[], [], 0⟩ + cells (wordsFrom [] line).flatten ≤ width := by
      rw [whole]
      simpa using fits
    simp [foldl_place_of_fits wide room, whole]

theorem linesOf_of_fits {chars : List Char} (unbroken : '\n' ∉ chars) (untabbed : '\t' ∉ chars)
    (fits : cells chars ≤ consoleWidth) : linesOf chars = [finishLine chars] := by
  have far : (dropTrailingBlanks chars).length ≤
      max consoleWidth (dropTrailingBlanks chars).length := Nat.le_max_right _ _
  have spread : spreadTabs 8 chars = chars := if_neg (by simpa using untabbed)
  have cut : cutLine consoleWidth chars =
      chars.take (max consoleWidth (dropTrailingBlanks chars).length) :=
    if_pos (Nat.le_trans (cells_take_le _ chars) fits)
  rw [linesOf_eq, splitChars_of_not_mem unbroken, List.flatMap_singleton, spread,
    wrap_of_fits .chop fits, List.map_singleton, List.map_singleton, cut, finishLine,
    dropTrailingBlanks_take far, ← finishLine]

end Whole

end SqlScaffold.Console
