import SqlScaffold.Text.Blank
import SqlScaffold.Text.Identifier

/-!
Blanks at the ends of texts. Trimming takes all of a blank text and nothing of a text without
blanks, of which identifiers are some. Trimming once is enough.
-/

namespace SqlScaffold.Text

theorem mem_of_mem_dropTrailingBlanks {chars : List Char} :
    ∀ c ∈ dropTrailingBlanks chars, c ∈ chars := by
  induction chars with
  | nil => simp [dropTrailingBlanks]
  | cons c rest ih =>
    rw [dropTrailingBlanks]
    split
    · split <;> simp
    · intro other inside
      rcases List.mem_cons.mp inside with rfl | later
      · exact List.mem_cons_self
      · exact List.mem_cons_of_mem c (ih other later)

theorem mem_dropTrailingBlanks {chars : List Char} {c : Char} (visible : isBlank c = false)
    (inside : c ∈ chars) : c ∈ dropTrailingBlanks chars := by
  induction chars with
  | nil => cases inside
  | cons first rest ih =>
    rw [dropTrailingBlanks]
    rcases List.mem_cons.mp inside with rfl | later
    · split <;> simp [visible]
    · split
      · next empty =>
        have kept := ih later
        rw [empty] at kept
        cases kept
      · exact List.mem_cons_of_mem first (ih later)

theorem mem_trim {text : String} {c : Char} (visible : isBlank c = false)
    (inside : c ∈ text.toList) : c ∈ (trim text).toList := by
  rw [trim, String.toList_ofList]
  refine mem_dropTrailingBlanks visible ?_
  rw [← List.takeWhile_append_dropWhile (p := isBlank) (l := text.toList)] at inside
  refine (List.mem_append.mp inside).resolve_left fun dropped => ?_
  rw [List.all_eq_true.mp List.all_takeWhile c dropped] at visible
  cases visible

theorem dropTrailingBlanks_idem (chars : List Char) :
    dropTrailingBlanks (dropTrailingBlanks chars) = dropTrailingBlanks chars := by
  induction chars with
  | nil => rfl
  | cons c rest ih =>
    by_cases empty : dropTrailingBlanks rest = []
    · by_cases blank : isBlank c = true
      · simp [dropTrailingBlanks, empty, blank]
      · simp [dropTrailingBlanks, empty, blank]
    · rw [dropTrailingBlanks]
      split
      · contradiction
      · rw [dropTrailingBlanks, ih]
        split
        · contradiction
        · rfl

theorem dropTrailingBlanks_append (first second : List Char) :
    dropTrailingBlanks (first ++ second) =
      if dropTrailingBlanks second = [] then dropTrailingBlanks first
      else first ++ dropTrailingBlanks second := by
  induction first with
  | nil => by_cases blank : dropTrailingBlanks second = [] <;> simp [blank, dropTrailingBlanks]
  | cons c rest ih =>
    by_cases blank : dropTrailingBlanks second = []
    · simp only [List.cons_append, dropTrailingBlanks, ih, if_pos blank]
    · rw [List.cons_append, dropTrailingBlanks, ih, if_neg blank, if_neg blank]
      split
      · next empty => exact absurd (List.append_eq_nil_iff.mp empty).2 blank
      · rfl

theorem exists_blanks (chars : List Char) :
    ∃ blanks, chars = dropTrailingBlanks chars ++ blanks ∧ ∀ c ∈ blanks, isBlank c = true := by
  induction chars with
  | nil => exact ⟨[], rfl, by simp⟩
  | cons c rest ih =>
    obtain ⟨blanks, whole, blank⟩ := ih
    rw [dropTrailingBlanks]
    split
    · next empty =>
      rw [empty, List.nil_append] at whole
      by_cases ending : isBlank c = true
      · exact ⟨c :: rest, by simp [ending], by simpa [ending, whole] using blank⟩
      · exact ⟨rest, by simp [ending], by simpa [whole] using blank⟩
    · exact ⟨blanks, by rw [List.cons_append, ← whole], blank⟩

theorem dropTrailingBlanks_take {chars : List Char} {count : Nat}
    (far : (dropTrailingBlanks chars).length ≤ count) :
    dropTrailingBlanks (chars.take count) = dropTrailingBlanks chars := by
  obtain ⟨blanks, whole, blank⟩ := exists_blanks chars
  have rest : dropTrailingBlanks (blanks.take (count - (dropTrailingBlanks chars).length)) = [] :=
    (dropTrailingBlanks_eq_nil_iff _).mpr fun c inside => blank c (List.mem_of_mem_take inside)
  have cut := congrArg (List.take count) whole
  rw [List.take_append, List.take_of_length_le far] at cut
  rw [cut, dropTrailingBlanks_append, if_pos rest, dropTrailingBlanks_idem]

theorem trimEnd_append_eq (first second : String) :
    trimEnd (first ++ second) =
      if allBlank second then trimEnd first else first ++ trimEnd second := by
  have blank : dropTrailingBlanks second.toList = [] ↔ allBlank second = true := by
    rw [dropTrailingBlanks_eq_nil_iff, allBlank, List.all_eq_true]
  rw [trimEnd, String.toList_append, dropTrailingBlanks_append]
  by_cases all : allBlank second = true
  · rw [if_pos (blank.mpr all), if_pos all, trimEnd]
  · rw [if_neg (mt blank.mp all), if_neg all]
    simp [trimEnd]

theorem trimEnd_trimEnd (text : String) : trimEnd (trimEnd text) = trimEnd text := by
  simp [trimEnd, dropTrailingBlanks_idem]

theorem allBlank_append (first second : String) :
    allBlank (first ++ second) = (allBlank first && allBlank second) := by
  simp [allBlank, String.toList_append, List.all_append]

theorem trimEnd_eq_empty_iff (text : String) : trimEnd text = "" ↔ allBlank text = true := by
  rw [trimEnd, ← String.toList_inj, String.toList_ofList]
  exact (dropTrailingBlanks_eq_nil_iff text.toList).trans (by simp [allBlank])

theorem allBlank_trimEnd (text : String) : allBlank (trimEnd text) = allBlank text := by
  rw [Bool.eq_iff_iff, ← trimEnd_eq_empty_iff, ← trimEnd_eq_empty_iff, trimEnd_trimEnd]

theorem trim_eq_empty_iff (text : String) : trim text = "" ↔ ∀ c ∈ text.toList, isBlank c = true := by
  have ends : trim text = "" ↔ ∀ c ∈ text.toList.dropWhile isBlank, isBlank c = true := by
    rw [← dropTrailingBlanks_eq_nil_iff, trim, ← String.toList_inj]
    simp
  rw [ends]
  induction text.toList with
  | nil => simp
  | cons c rest ih => by_cases blank : isBlank c <;> simp [blank, ih]

theorem dropTrailingBlanks_eq_self {chars : List Char} (visible : ∀ c ∈ chars, isBlank c = false) :
    dropTrailingBlanks chars = chars := by
  induction chars with
  | nil => rfl
  | cons c rest ih =>
    obtain ⟨here, later⟩ := List.forall_mem_cons.mp visible
    cases rest with
    | nil => simp [dropTrailingBlanks, here]
    | cons next rest => rw [dropTrailingBlanks, ih later]

theorem trim_eq_self {text : String} (visible : ∀ c ∈ text.toList, isBlank c = false) :
    trim text = text := by
  have start : text.toList.dropWhile isBlank = text.toList := by
    cases chars : text.toList with
    | nil => rfl
    | cons c rest => simp [visible c (by simp [chars])]
  rw [trim, start, dropTrailingBlanks_eq_self visible, String.ofList_toList]

theorem Ranges.contains_eq_false_of_apart {first second : Ranges}
    (apart : ∀ range ∈ first, ∀ other ∈ second, range.2 < other.1 ∨ other.2 < range.1) {c : Char}
    (inside : first.contains c = true) : second.contains c = false := by
  obtain ⟨range, present, least, greatest⟩ := (Ranges.contains_iff first c).mp inside
  rw [Bool.eq_false_iff, ne_eq, Ranges.contains_iff]
  rintro ⟨other, also, above, below⟩
  rcases apart range present other also with before | behind <;> omega

theorem isBlank_of_isIdentifierStart {c : Char} (start : isIdentifierStart c = true) :
    isBlank c = false :=
  Ranges.contains_eq_false_of_apart (by decide +kernel) start

theorem isBlank_of_isIdentifierPart {c : Char} (part : isIdentifierPart c = true) :
    isBlank c = false := by
  rcases Bool.or_eq_true_iff.mp part with start | further
  · exact isBlank_of_isIdentifierStart start
  · exact Ranges.contains_eq_false_of_apart (by decide +kernel) further

theorem isIdentifierPart_of_mem {text : String} (identifier : isIdentifier text) :
    ∀ c ∈ text.toList, isIdentifierPart c = true := by
  unfold isIdentifier at identifier
  cases chars : text.toList with
  | nil => simp
  | cons first rest =>
    simp only [chars, Bool.and_eq_true, List.all_eq_true] at identifier
    intro c inside
    rcases List.mem_cons.mp inside with rfl | later
    · have start : identifierStartRanges.contains c = true := identifier.1
      simp [isIdentifierPart, start]
    · exact identifier.2 c later

theorem isBlank_of_isIdentifier {text : String} (identifier : isIdentifier text = true) :
    ∀ c ∈ text.toList, isBlank c = false :=
  fun c inside => isBlank_of_isIdentifierPart (isIdentifierPart_of_mem identifier c inside)

theorem ne_empty_of_isIdentifier {text : String} (identifier : isIdentifier text = true) :
    text ≠ "" := by
  rintro rfl
  cases identifier

end SqlScaffold.Text
