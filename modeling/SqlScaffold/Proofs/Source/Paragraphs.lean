import SqlScaffold.Proofs.Source.FinalForm

/-!
Sources in paragraphs. A source that is laid out in paragraphs, with an empty line between any two
of them, is in its final form already, and its paragraphs can be read back from it.
-/

namespace SqlScaffold

namespace Source

open Text

theorem trimEnd_append {text ending : String} (ends : trimEnd ending = ending)
    (filled : ending ≠ "") : trimEnd (text ++ ending) = text ++ ending := by
  have visible : ¬allBlank ending = true := by rwa [← trimEnd_eq_empty_iff, ends]
  rw [trimEnd_append_eq, if_neg visible, ends]

theorem IsKept.append {text ending : String} (unbroken : IsUnbroken text) (kept : IsKept ending) :
    IsKept (text ++ ending) := by
  obtain ⟨ends, whole, filled⟩ := kept
  refine ⟨isUnbroken_append.mpr ⟨unbroken, ends⟩, trimEnd_append whole filled, ?_⟩
  simp [filled]

theorem IsKept.unbroken {line : String} (kept : IsKept line) : IsUnbroken line := kept.1

theorem IsKept.filled {line : String} (kept : IsKept line) : line ≠ "" := kept.2.2

theorem IsKept.not_allBlank {line : String} (kept : IsKept line) : allBlank line = false := by
  obtain ⟨_, ends, filled⟩ := kept
  rw [Bool.eq_false_iff]
  intro blank
  have dropped := (dropTrailingBlanks_eq_nil_iff line.toList).mpr (by simpa [allBlank] using blank)
  rw [trimEnd, dropped] at ends
  exact filled ends.symm

def EndsLine (ending body : String) : Prop := ∃ start, start ++ ending ∈ splitLines body

theorem EndsLine.unbroken {ending body : String} (ends : EndsLine ending body) :
    IsUnbroken ending := by
  obtain ⟨start, listed⟩ := ends
  exact (isUnbroken_append.mp (unbroken_of_mem_splitLines _ listed)).2

theorem endsLine_normalize {ending code : String} (kept : IsKept ending)
    (inside : (ending ++ "\n").toList <:+: code.toList) : EndsLine ending (normalize code) := by
  obtain ⟨before, after, whole⟩ := inside
  have same : code = String.ofList before ++ ending ++ "\n" ++ String.ofList after := by
    rw [← String.toList_inj, ← whole]
    simp
  obtain ⟨lines, start, last⟩ :=
    splitLines_append_ending kept.unbroken kept.filled (String.ofList before)
  have trimmed : trimEnd (start ++ ending) = start ++ ending := trimEnd_append kept.2.1 kept.filled
  have visible : allBlank (start ++ ending) = false := by
    rw [allBlank_append, kept.not_allBlank, Bool.and_false]
  have raw : start ++ ending ∈ textLines (splitLines (String.ofList before ++ ending)) := by
    rw [last]
    exact List.mem_filter.mpr ⟨by simp, by simp [visible]⟩
  have listed : start ++ ending ∈ textLines (splitLines (normalize code)) := by
    rw [(isFinalFormOf_normalize code).lines, same, textLines_splitLines_append, List.map_append,
      List.mem_append]
    exact .inl (List.mem_map.mpr ⟨_, raw, trimmed⟩)
  exact ⟨start, (List.mem_filter.mp listed).1⟩

theorem exists_mem_indentLines (width : Nat) {line : String} {lines : List String}
    (inside : line ∈ lines) : ∃ blanks, blanks ++ line ∈ indentLines width lines := by
  by_cases blank : allBlank line
  · exact ⟨"", List.mem_map.mpr ⟨line, inside, by simp [blank]⟩⟩
  · exact ⟨repeated width ' ', List.mem_map.mpr ⟨line, inside, by simp [blank]⟩⟩

theorem indentLines_of_kept (width : Nat) {lines : List String}
    (kept : ∀ line ∈ lines, IsKept line) :
    indentLines width lines = lines.map (repeated width ' ' ++ ·) :=
  List.map_congr_left fun line inside => by simp [(kept line inside).not_allBlank]

def IsParagraph (lines : List String) : Prop := lines ≠ [] ∧ ∀ line ∈ lines, IsKept line

def layOut : List (List String) → List String
  | [] => []
  | paragraph :: rest => paragraph ++ rest.flatMap ("" :: ·)

theorem layOut_append (first : List (List String)) (paragraph : List String)
    (rest : List (List String)) :
    layOut (first ++ paragraph :: rest) =
      first.flatMap (· ++ [""]) ++ (paragraph ++ rest.flatMap ("" :: ·)) := by
  induction first with
  | nil => rfl
  | cons head tail ih =>
    cases tail with
    | nil => simp [layOut]
    | cons next tail =>
      simp only [layOut, List.cons_append, List.flatMap_append, List.flatMap_cons] at ih ⊢
      simp [ih]

theorem textOf_layOut_append (first : List (List String)) {rest : List (List String)}
    (nonempty : rest ≠ []) (ending : String) :
    textOf (first.flatMap (· ++ [""])) ++ textOf (layOut rest ++ [ending]) =
      textOf (layOut (first ++ rest) ++ [ending]) := by
  obtain ⟨paragraph, rest, rfl⟩ := List.exists_cons_of_ne_nil nonempty
  rw [layOut_append, ← textOf_append, layOut]
  simp only [List.append_assoc]

section Normal

variable {paragraphs : List (List String)} {ending : String}

theorem isChain_append_of_filled {lines rest : List String} (filled : ∀ line ∈ lines, line ≠ "")
    (chain : rest.IsChain fun line next => line ≠ "" ∨ next ≠ "") :
    (lines ++ rest).IsChain fun line next => line ≠ "" ∨ next ≠ "" := by
  induction lines with
  | nil => exact chain
  | cons line tail ih =>
    obtain ⟨here, later⟩ := List.forall_mem_cons.mp filled
    refine List.isChain_cons.mpr ⟨?_, ih later⟩
    intro next _
    exact Or.inl here

theorem isChain_spaced (laid : ∀ lines ∈ paragraphs, IsParagraph lines) :
    (paragraphs.flatMap ("" :: ·) ++ [ending]).IsChain fun line next => line ≠ "" ∨ next ≠ "" := by
  induction paragraphs with
  | nil => exact .singleton ending
  | cons lines rest ih =>
    obtain ⟨⟨nonempty, kept⟩, later⟩ := List.forall_mem_cons.mp laid
    have filled : ∀ line ∈ lines, line ≠ "" := fun line inside => (kept line inside).filled
    rw [List.flatMap_cons, List.append_assoc, List.cons_append]
    refine List.isChain_cons.mpr ⟨?_, isChain_append_of_filled filled (ih later)⟩
    obtain ⟨line, tail, rfl⟩ := List.exists_cons_of_ne_nil nonempty
    intro next first
    have same : line = next := by simpa using first
    exact Or.inr (same ▸ filled line List.mem_cons_self)

theorem areSpaced_layOut (laid : ∀ lines ∈ paragraphs, IsParagraph lines) (filled : ending ≠ "") :
    AreSpaced (layOut paragraphs ++ [ending]) := by
  have last : (layOut paragraphs ++ [ending]).getLast? ≠ some "" := by simpa using filled
  cases paragraphs with
  | nil => exact ⟨by simpa [layOut] using filled, last, .singleton ending⟩
  | cons lines rest =>
    obtain ⟨⟨nonempty, kept⟩, later⟩ := List.forall_mem_cons.mp laid
    have filledAll : ∀ line ∈ lines, line ≠ "" := fun line inside => (kept line inside).filled
    refine ⟨?_, last, ?_⟩
    · obtain ⟨line, tail, rfl⟩ := List.exists_cons_of_ne_nil nonempty
      simpa [layOut] using filledAll line List.mem_cons_self
    · rw [layOut, List.append_assoc]
      exact isChain_append_of_filled filledAll (isChain_spaced later)

theorem kept_or_empty_of_mem (laid : ∀ lines ∈ paragraphs, IsParagraph lines)
    (kept : IsKept ending) : ∀ line ∈ layOut paragraphs ++ [ending], IsKept line ∨ line = "" := by
  intro line inside
  cases paragraphs with
  | nil => exact .inl (List.mem_singleton.mp inside ▸ kept)
  | cons first rest =>
    simp only [layOut, List.mem_append, List.mem_flatMap, List.mem_cons, List.not_mem_nil,
      or_false] at inside
    rcases inside with (here | ⟨lines, listed, rfl | there⟩) | rfl
    · exact .inl ((laid first List.mem_cons_self).2 line here)
    · exact .inr rfl
    · exact .inl ((laid lines (List.mem_cons_of_mem first listed)).2 line there)
    · exact .inl kept

theorem unbroken_layOut (laid : ∀ lines ∈ paragraphs, IsParagraph lines) (kept : IsKept ending) :
    ∀ line ∈ layOut paragraphs ++ [ending], IsUnbroken line := by
  intro line inside
  rcases kept_or_empty_of_mem laid kept line inside with held | rfl
  · exact held.unbroken
  · decide

theorem trimEnd_layOut (laid : ∀ lines ∈ paragraphs, IsParagraph lines) (kept : IsKept ending) :
    ∀ line ∈ layOut paragraphs ++ [ending], trimEnd line = line := by
  intro line inside
  rcases kept_or_empty_of_mem laid kept line inside with held | rfl
  · exact held.2.1
  · rfl

/-- Laid out in paragraphs, a source is in its final form. -/
theorem normalize_layOut (laid : ∀ lines ∈ paragraphs, IsParagraph lines) (kept : IsKept ending) :
    normalize (textOf (layOut paragraphs ++ [ending])) = textOf (layOut paragraphs ++ [ending]) :=
  normalize_textOf (by simp) (unbroken_layOut laid kept) (trimEnd_layOut laid kept)
    (areSpaced_layOut laid kept.filled)

theorem isFinal_layOut (laid : ∀ lines ∈ paragraphs, IsParagraph lines) (kept : IsKept ending) :
    IsFinal (textOf (layOut paragraphs ++ [ending])) :=
  isFinal_textOf (by simp) (unbroken_layOut laid kept) (trimEnd_layOut laid kept)
    (areSpaced_layOut laid kept.filled)

end Normal

/-- A line behind some filled ones that is empty, if there is any, ends them. -/
theorem append_spaced_inj {first second : List String} {rest further : List (List String)}
    (filled : ∀ line ∈ first, line ≠ "") (also : ∀ line ∈ second, line ≠ "")
    (same : first ++ rest.flatMap ("" :: ·) = second ++ further.flatMap ("" :: ·)) :
    first = second ∧ rest.flatMap ("" :: ·) = further.flatMap ("" :: ·) := by
  have head : ∀ (lines : List String) (groups : List (List String)),
      (∀ line ∈ lines, line ≠ "") →
        (lines ++ groups.flatMap ("" :: ·)).takeWhile (· != "") = lines := by
    intro lines groups present
    rw [List.takeWhile_append_of_pos fun line inside => by simpa using present line inside]
    cases groups with
    | nil => simp
    | cons group groups => simp
  have start : first = second := by
    rw [← head first rest filled, same, head second further also]
  subst start
  exact ⟨rfl, List.append_cancel_left same⟩

theorem spaced_inj {first second : List (List String)}
    (filled : ∀ lines ∈ first, ∀ line ∈ lines, line ≠ "")
    (also : ∀ lines ∈ second, ∀ line ∈ lines, line ≠ "")
    (same : first.flatMap ("" :: ·) = second.flatMap ("" :: ·)) : first = second := by
  induction first generalizing second with
  | nil =>
    cases second with
    | nil => rfl
    | cons lines rest => simp at same
  | cons lines rest ih =>
    cases second with
    | nil => simp at same
    | cons others further =>
      obtain ⟨here, later⟩ := List.forall_mem_cons.mp filled
      obtain ⟨alsoHere, alsoLater⟩ := List.forall_mem_cons.mp also
      obtain ⟨head, tail⟩ := append_spaced_inj here alsoHere (List.cons.inj same).2
      rw [head, ih later alsoLater tail]

/-- The final form of a source determines its paragraphs. -/
theorem normalize_layOut_inj {first second : List (List String)} {ending : String}
    (nonempty : first ≠ []) (others : second ≠ [])
    (laid : ∀ lines ∈ first, IsParagraph lines) (also : ∀ lines ∈ second, IsParagraph lines)
    (kept : IsKept ending)
    (same : normalize (textOf (layOut first ++ [ending])) =
      normalize (textOf (layOut second ++ [ending]))) : first = second := by
  have filled : ∀ {paragraphs : List (List String)}, (∀ lines ∈ paragraphs, IsParagraph lines) →
      ∀ lines ∈ paragraphs, ∀ line ∈ lines, line ≠ "" :=
    fun laid lines inside line member => ((laid lines inside).2 line member).filled
  rw [normalize_layOut laid kept, normalize_layOut also kept] at same
  have lines := congrArg splitLines same
  rw [splitLines_textOf (unbroken_layOut laid kept), splitLines_textOf (unbroken_layOut also kept)]
    at lines
  have whole := List.append_cancel_right lines
  obtain ⟨head, rest, rfl⟩ := List.exists_cons_of_ne_nil nonempty
  obtain ⟨other, further, rfl⟩ := List.exists_cons_of_ne_nil others
  obtain ⟨here, later⟩ := List.forall_mem_cons.mp (filled laid)
  obtain ⟨alsoHere, alsoLater⟩ := List.forall_mem_cons.mp (filled also)
  obtain ⟨rfl, spaced⟩ := append_spaced_inj here alsoHere whole
  rw [spaced_inj later alsoLater spaced]

end Source

end SqlScaffold
