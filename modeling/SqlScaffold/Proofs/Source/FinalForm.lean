import Mathlib.Data.List.Chain
import SqlScaffold.Proofs.Source.Gaps
import SqlScaffold.Proofs.Source.Layout
import SqlScaffold.Proofs.Text.Lines
import SqlScaffold.Proofs.Text.Unbroken

/-!
The final form of a source. Whatever text is brought into it keeps its lines but for blanks at their
ends, and the final form of a final form is the same text.
-/

namespace SqlScaffold

namespace Text

theorem splitLines_textOf {lines : List String} (unbroken : ∀ line ∈ lines, IsUnbroken line) :
    splitLines (textOf lines) = lines := by
  induction lines with
  | nil => simp [textOf, splitLines, linesFrom]
  | cons line rest ih =>
    obtain ⟨here, later⟩ := List.forall_mem_cons.mp unbroken
    rw [textOf, Source.splitLines_append here, ih later]

theorem getLast?_joinWith {lines : List String} (unbroken : ∀ line ∈ lines, IsUnbroken line)
    (last : lines.getLast? ≠ some "") : (joinWith "\n" lines).toList.getLast? ≠ some '\n' := by
  rcases List.eq_nil_or_concat lines with rfl | ⟨before, line, rfl⟩
  · simp [joinWith]
  · rw [List.concat_eq_append] at last unbroken ⊢
    have filled : line.toList ≠ [] := by simpa using last
    have plain : IsUnbroken line := unbroken line (by simp)
    obtain ⟨start, joined⟩ := exists_joinWith_eq_append "\n" before line
    intro ending
    rw [joined, String.toList_append, List.getLast?_append, List.getLast?_eq_some_getLast filled]
      at ending
    have newline : line.toList.getLast filled = '\n' := by simpa using ending
    exact plain.newline_not_mem (newline ▸ List.getLast_mem filled)

end Text

namespace Source

open Text

structure AreSpaced (lines : List String) : Prop where
  first : lines.head? ≠ some ""
  last : lines.getLast? ≠ some ""
  apart : lines.IsChain fun line next => line ≠ "" ∨ next ≠ ""

structure IsFinal (text : String) : Prop where
  ended : ∃ body, text = body ++ "\n" ∧ body.toList.getLast? ≠ some '\n'
  boundary : ∀ c ∈ text.toList, isLineBoundary c = true → c = '\n'
  trimmed : ∀ line ∈ splitLines text, trimEnd line = line
  spaced : text = "\n" ∨ AreSpaced (splitLines text)

section Lines

theorem collapseBlank_sublist (afterText : Bool) (lines : List String) :
    (collapseBlank afterText lines).Sublist lines := by
  induction lines generalizing afterText with
  | nil => simp [collapseBlank]
  | cons line rest ih =>
    rw [collapseBlank]
    split
    · exact (ih true).cons_cons line
    · split
      · exact (ih false).cons_cons line
      · exact (ih false).cons line

theorem exists_append_dropFinalBlank (lines : List String) :
    ∃ dropped, lines = dropFinalBlank lines ++ dropped ∧ ∀ line ∈ dropped, line = "" := by
  induction lines with
  | nil => exact ⟨[], rfl, by simp⟩
  | cons line rest ih =>
    obtain ⟨dropped, split, empty⟩ := ih
    by_cases gone : dropFinalBlank rest = []
    · have blankRest : rest = dropped := by simpa [gone] using split
      by_cases blank : line = ""
      · refine ⟨line :: rest, by simp [dropFinalBlank, gone, blank], ?_⟩
        exact List.forall_mem_cons.mpr ⟨blank, blankRest ▸ empty⟩
      · exact ⟨rest, by simp [dropFinalBlank, gone, blank], blankRest ▸ empty⟩
    · refine ⟨dropped, ?_, empty⟩
      rw [dropFinalBlank]
      split
      · contradiction
      · rw [List.cons_append, ← split]

theorem head?_collapseBlank (lines : List String) :
    (collapseBlank false lines).head? ≠ some "" := by
  induction lines with
  | nil => simp [collapseBlank]
  | cons line rest ih =>
    by_cases filled : line = ""
    · simpa [collapseBlank, filled] using ih
    · simp [collapseBlank, filled]

theorem isChain_collapseBlank (afterText : Bool) (lines : List String) :
    (collapseBlank afterText lines).IsChain fun line next => line ≠ "" ∨ next ≠ "" := by
  induction lines generalizing afterText with
  | nil => simp [collapseBlank]
  | cons line rest ih =>
    rw [collapseBlank]
    split
    · next filled =>
      refine List.isChain_cons.mpr ⟨?_, ih true⟩
      intro next _
      exact Or.inl filled
    · split
      · refine List.isChain_cons.mpr ⟨?_, ih false⟩
        intro next first
        refine Or.inr ?_
        rintro rfl
        exact head?_collapseBlank rest first
      · exact ih false

theorem getLast?_dropFinalBlank (lines : List String) :
    (dropFinalBlank lines).getLast? ≠ some "" := by
  induction lines with
  | nil => simp [dropFinalBlank]
  | cons line rest ih =>
    cases kept : dropFinalBlank rest with
    | nil => by_cases blank : line = "" <;> simp [dropFinalBlank, kept, blank]
    | cons next further =>
      rw [kept] at ih
      rw [dropFinalBlank, kept, List.getLast?_cons_cons]
      exact ih

theorem collapseBlank_of_isChain {afterText : Bool} {lines : List String}
    (apart : lines.IsChain fun line next => line ≠ "" ∨ next ≠ "")
    (start : afterText = true ∨ lines.head? ≠ some "") :
    collapseBlank afterText lines = lines := by
  induction lines generalizing afterText with
  | nil => rfl
  | cons line rest ih =>
    obtain ⟨next, later⟩ := List.isChain_cons.mp apart
    by_cases filled : line = ""
    · have text : afterText = true := by
        rcases start with text | other
        · exact text
        · simp [filled] at other
      have further : collapseBlank false rest = rest := by
        refine ih later (Or.inr ?_)
        intro first
        rcases next "" first with here | there
        · exact here filled
        · exact there rfl
      simp [collapseBlank, filled, text, further]
    · rw [collapseBlank, if_pos filled, ih later (Or.inl rfl)]

theorem dropFinalBlank_of_last {lines : List String} (last : lines.getLast? ≠ some "") :
    dropFinalBlank lines = lines := by
  obtain ⟨dropped, split, empty⟩ := exists_append_dropFinalBlank lines
  rcases List.eq_nil_or_concat dropped with rfl | ⟨before, line, rfl⟩
  · rw [List.append_nil] at split
    exact split.symm
  · have blank : line = "" := empty line (by simp)
    rw [split, blank] at last
    simp at last

theorem textLines_collapseBlank (afterText : Bool) (lines : List String) :
    textLines (collapseBlank afterText lines) = textLines lines := by
  have empty : allBlank "" = true := rfl
  induction lines generalizing afterText with
  | nil => rfl
  | cons line rest ih =>
    rw [collapseBlank]
    split
    · simp only [textLines, List.filter_cons] at ih ⊢
      rw [ih true]
    · next blank =>
      have same : line = "" := by simpa using blank
      subst same
      split
      · simpa [textLines, empty] using ih false
      · simpa [textLines, empty] using ih false

section Collapse

variable {lines : List String} (empty : ∀ line ∈ lines, allBlank line = true → line = "")

include empty

/-- Of the blank lines between two text lines one stays, if there are any. -/
theorem blanksBefore_collapseBlank (passed : Nat) :
    blanksBefore (min passed 1) (collapseBlank (passed == 0) lines) =
      (blanksBefore passed lines).map (min · 1) := by
  have blank : allBlank "" = true := rfl
  induction lines generalizing passed with
  | nil => rfl
  | cons line rest ih =>
    obtain ⟨here, later⟩ := List.forall_mem_cons.mp empty
    have behind := ih later
    by_cases filled : line = ""
    · subst filled
      cases passed with
      | zero => simpa [collapseBlank, blanksBefore, blank] using behind 1
      | succ passed => simpa [collapseBlank, blanksBefore, blank] using behind (passed + 2)
    · have text : allBlank line = false := by
        by_contra other
        exact filled (here (by simpa using other))
      have first := behind 0
      simp only [Nat.zero_min, BEq.rfl] at first
      simp [collapseBlank, blanksBefore, filled, text, first]

theorem tail_blanksBefore_collapseBlank (passed : Nat) :
    (blanksBefore 0 (collapseBlank false lines)).tail =
      ((blanksBefore passed lines).map (min · 1)).tail := by
  have blank : allBlank "" = true := rfl
  induction lines generalizing passed with
  | nil => rfl
  | cons line rest ih =>
    obtain ⟨here, later⟩ := List.forall_mem_cons.mp empty
    by_cases filled : line = ""
    · subst filled
      simpa [collapseBlank, blanksBefore, blank] using ih later (passed + 1)
    · have text : allBlank line = false := by
        by_contra other
        exact filled (here (by simpa using other))
      have first := blanksBefore_collapseBlank later 0
      simp only [Nat.zero_min, BEq.rfl] at first
      simp [collapseBlank, blanksBefore, filled, text, first]

end Collapse

end Lines

section Text

variable {code : String}

variable (code) in
theorem empty_of_allBlank : ∀ line ∈ (splitLines code).map trimEnd,
    allBlank line = true → line = "" := by
  intro line inside blank
  obtain ⟨raw, _, rfl⟩ := List.mem_map.mp inside
  rw [allBlank_trimEnd] at blank
  exact (trimEnd_eq_empty_iff raw).mpr blank

variable (code) in
theorem exists_append_normalLines : ∃ dropped,
    collapseBlank false ((splitLines code).map trimEnd) = normalLines code ++ dropped ∧
      ∀ line ∈ dropped, allBlank line = true := by
  obtain ⟨dropped, split, empty⟩ :=
    exists_append_dropFinalBlank (collapseBlank false ((splitLines code).map trimEnd))
  refine ⟨dropped, split, ?_⟩
  intro line inside
  rw [empty line inside]
  rfl

theorem exists_of_mem_normalLines {line : String} (inside : line ∈ normalLines code) :
    ∃ raw ∈ splitLines code, trimEnd raw = line := by
  obtain ⟨dropped, split, _⟩ := exists_append_normalLines code
  have kept : line ∈ collapseBlank false ((splitLines code).map trimEnd) := by
    rw [split]
    exact List.mem_append_left dropped inside
  exact List.mem_map.mp ((collapseBlank_sublist false _).subset kept)

theorem unbroken_of_mem_normalLines : ∀ line ∈ normalLines code, IsUnbroken line := by
  intro line inside
  obtain ⟨raw, member, rfl⟩ := exists_of_mem_normalLines inside
  exact (unbroken_of_mem_splitLines raw member).trimEnd

theorem trimEnd_of_mem_normalLines : ∀ line ∈ normalLines code, trimEnd line = line := by
  intro line inside
  obtain ⟨raw, _, rfl⟩ := exists_of_mem_normalLines inside
  exact trimEnd_trimEnd raw

theorem areSpaced_normalLines : AreSpaced (normalLines code) := by
  have chain := isChain_collapseBlank false ((splitLines code).map trimEnd)
  have first := head?_collapseBlank ((splitLines code).map trimEnd)
  obtain ⟨dropped, split, _⟩ := exists_append_normalLines code
  rw [split] at chain first
  refine ⟨?_, getLast?_dropFinalBlank _, chain.left_of_append⟩
  intro start
  refine first ?_
  rw [List.head?_append, start]
  rfl

theorem textLines_normalLines :
    textLines (normalLines code) = (textLines (splitLines code)).map trimEnd := by
  obtain ⟨dropped, split, blank⟩ := exists_append_normalLines code
  calc textLines (normalLines code)
      = textLines (normalLines code ++ dropped) := (textLines_append_of_blank blank).symm
    _ = textLines (collapseBlank false ((splitLines code).map trimEnd)) :=
        congrArg textLines split.symm
    _ = textLines ((splitLines code).map trimEnd) := textLines_collapseBlank false _
    _ = (textLines (splitLines code)).map trimEnd := textLines_map_trimEnd _

theorem textLines_splitLines_append (first second : String) :
    textLines (splitLines (first ++ "\n" ++ second)) =
      textLines (splitLines first) ++ textLines (splitLines second) := by
  obtain ⟨empty, lines, blanks⟩ := linesFrom_append_newline [] first.toList second.toList
  have whole : (first ++ "\n" ++ second).toList = first.toList ++ '\n' :: second.toList := by simp
  have blank : ∀ line ∈ empty.map String.ofList, allBlank line = true := by
    refine List.forall_mem_map.mpr fun line inside => ?_
    rw [blanks line inside]
    rfl
  calc textLines (splitLines (first ++ "\n" ++ second))
      = textLines (splitLines first ++ empty.map String.ofList ++ splitLines second) := by
        rw [splitLines, whole, lines, List.map_append, List.map_append]
        rfl
    _ = textLines (splitLines first ++ empty.map String.ofList) ++ textLines (splitLines second) :=
        List.filter_append _ _
    _ = textLines (splitLines first) ++ textLines (splitLines second) := by
        rw [textLines_append_of_blank blank]

theorem hasGap_normalLines_iff {index size : Nat} :
    HasGap (normalLines code) index size ↔
      ∃ blanks, HasGap (splitLines code) index blanks ∧ min blanks 1 = size := by
  obtain ⟨dropped, split, blank⟩ := exists_append_normalLines code
  have tails := tail_blanksBefore_collapseBlank (empty_of_allBlank code) 0
  rw [split, blanksBefore_append 0 blank, blanksBefore_map_trimEnd] at tails
  have entries := congrArg (·[index]?) tails
  simp only [List.getElem?_tail, List.getElem?_map] at entries
  simp only [hasGap_iff 0, entries, Option.map_eq_some_iff]

theorem normalize_textOf {lines : List String} (nonempty : lines ≠ [])
    (unbroken : ∀ line ∈ lines, IsUnbroken line) (trimmed : ∀ line ∈ lines, trimEnd line = line)
    (spaced : AreSpaced lines) : normalize (textOf lines) = textOf lines := by
  have ends : lines.map trimEnd = lines :=
    (List.map_congr_left trimmed).trans (List.map_id lines)
  rw [normalize, normalLines, splitLines_textOf unbroken, ends,
    collapseBlank_of_isChain spaced.apart (Or.inr spaced.first),
    dropFinalBlank_of_last spaced.last, ← textOf_eq_joinWith nonempty]

theorem isFinal_textOf {lines : List String} (nonempty : lines ≠ [])
    (unbroken : ∀ line ∈ lines, IsUnbroken line) (trimmed : ∀ line ∈ lines, trimEnd line = line)
    (spaced : AreSpaced lines) : IsFinal (textOf lines) := by
  have read : splitLines (textOf lines) = lines := splitLines_textOf unbroken
  refine ⟨?ended, ?boundary, ?trimmed, Or.inr (read.symm ▸ spaced)⟩
  case ended =>
    exact ⟨_, textOf_eq_joinWith nonempty, getLast?_joinWith unbroken spaced.last⟩
  case boundary =>
    intro c inside boundary
    rcases mem_textOf inside with newline | ⟨line, member, here⟩
    · exact newline
    · simp [unbroken line member c here] at boundary
  case trimmed => rwa [read]

theorem normalize_of_eq_nil (empty : normalLines code = []) : normalize code = "\n" := by
  rw [normalize, empty]
  rfl

theorem normalize_of_ne_nil (nonempty : normalLines code ≠ []) :
    normalize code = textOf (normalLines code) := (textOf_eq_joinWith nonempty).symm

variable (code) in
theorem splitLines_normalize : ∃ blanks,
    splitLines (normalize code) = normalLines code ++ blanks ∧
      ∀ line ∈ blanks, allBlank line = true := by
  by_cases empty : normalLines code = []
  · refine ⟨[""], ?_, ?_⟩
    · rw [normalize_of_eq_nil empty, empty]
      rfl
    · exact List.forall_mem_singleton.mpr rfl
  · refine ⟨[], ?_, by simp⟩
    rw [normalize_of_ne_nil empty, splitLines_textOf unbroken_of_mem_normalLines, List.append_nil]

variable (code) in
theorem isFinal_normalize : IsFinal (normalize code) := by
  by_cases empty : normalLines code = []
  · rw [normalize_of_eq_nil empty]
    refine ⟨⟨"", rfl, nofun⟩, ?boundary, ?trimmed, Or.inl rfl⟩
    case boundary =>
      intro c member _
      simpa using member
    case trimmed => exact List.forall_mem_singleton.mpr rfl
  · rw [normalize_of_ne_nil empty]
    exact isFinal_textOf empty unbroken_of_mem_normalLines trimEnd_of_mem_normalLines
      areSpaced_normalLines

variable (code) in
theorem normalize_idem : normalize (normalize code) = normalize code := by
  by_cases empty : normalLines code = []
  · rw [normalize_of_eq_nil empty]
    rfl
  · rw [normalize_of_ne_nil empty]
    exact normalize_textOf empty unbroken_of_mem_normalLines trimEnd_of_mem_normalLines
      areSpaced_normalLines

theorem hasGap_normalize_iff {index size : Nat} :
    HasGap (splitLines (normalize code)) index size ↔
      ∃ blanks, HasGap (splitLines code) index blanks ∧ min blanks 1 = size := by
  obtain ⟨blanks, lines, blank⟩ := splitLines_normalize code
  rw [← hasGap_normalLines_iff, lines, hasGap_iff 0, hasGap_iff 0, blanksBefore_append 0 blank]

/-- A text in its final form that says the same as some code: it has the text lines of the code
without the blanks at their ends, and it keeps those apart that blank lines keep apart there. -/
structure IsFinalFormOf (code text : String) : Prop where
  final : IsFinal text
  lines : textLines (splitLines text) = (textLines (splitLines code)).map trimEnd
  apart : ∀ index, HasGap (splitLines text) index 1 ↔
    ∃ size, HasGap (splitLines code) index (size + 1)
  together : ∀ index, HasGap (splitLines text) index 0 ↔ HasGap (splitLines code) index 0
  stable : normalize text = text

theorem isFinalFormOf_normalize (code : String) : IsFinalFormOf code (normalize code) := by
  refine ⟨isFinal_normalize code, ?lines, ?apart, ?together, normalize_idem code⟩
  case lines =>
    obtain ⟨blanks, lines, blank⟩ := splitLines_normalize code
    rw [lines, textLines_append_of_blank blank, textLines_normalLines]
  case apart =>
    intro index
    rw [hasGap_normalize_iff]
    constructor
    · rintro ⟨blanks, gap, one⟩
      have size : blanks = blanks - 1 + 1 := by omega
      exact ⟨blanks - 1, size ▸ gap⟩
    · rintro ⟨size, gap⟩
      exact ⟨size + 1, gap, by omega⟩
  case together =>
    intro index
    rw [hasGap_normalize_iff]
    constructor
    · rintro ⟨blanks, gap, single⟩
      have size : blanks = 0 := by omega
      exact size ▸ gap
    · intro gap
      exact ⟨0, gap, rfl⟩

end Text

end Source

end SqlScaffold
