import Mathlib.Data.List.TakeWhile
import SqlScaffold.Console.Printed
import SqlScaffold.Proofs.Outcome

/-!
Which marked texts can be printed: their markup has to be read, and the styles that reach a printed
line have to be read as well. No step between a text and its lines brings in a style.
-/

namespace SqlScaffold.Console

open Text

theorem scan_skipped (chars : List Char) (position slashes : Nat) (held rest : List Char) :
    scan position slashes chars.length held (chars ++ rest) =
      scan (position + chars.length) slashes 0 held rest := by
  induction chars generalizing position with
  | nil => rfl
  | cons c tail ih =>
    simp only [List.length_cons, List.cons_append, scan, Nat.succ_pos, if_true,
      Nat.add_sub_cancel, ih]
    congr 1
    omega

theorem scan_plain {chars : List Char} {last : Char} (plain : '[' ∉ chars)
    (unslashed : last ≠ '\\') (unopened : last ≠ '[') (position slashes : Nat)
    (held rest : List Char) :
    ∃ before, scan position slashes 0 held (chars ++ last :: rest) =
      scan (position + chars.length + 1) 0 0 before rest := by
  induction chars generalizing position slashes held with
  | nil => exact ⟨_, by simp [scan, unslashed, unopened]; rfl⟩
  | cons c tail ih =>
    rw [List.mem_cons, not_or] at plain
    obtain ⟨different, later⟩ := plain
    have shifted : position + (c :: tail).length + 1 = position + 1 + tail.length + 1 := by
      simp only [List.length_cons]
      omega
    rw [shifted]
    by_cases slash : c = '\\'
    · obtain ⟨before, same⟩ := ih later (position + 1) (slashes + 1) held
      exact ⟨before, by simpa [scan, slash] using same⟩
    · have unopened : c ≠ '[' := Ne.symm different
      obtain ⟨before, same⟩ :=
        ih later (position + 1) 0 (c :: (List.replicate slashes '\\' ++ held))
      exact ⟨before, by simpa [scan, slash, unopened] using same⟩

/-- An odd number of backslashes in front of a tag makes it plain text. -/
theorem scan_opening {content rest : List Char}
    (tag : tagContent? (content ++ ']' :: rest) = some content) (position slashes : Nat)
    (held : List Char) :
    scan position slashes 0 held ('[' :: (content ++ ']' :: rest)) =
      .plain (unescape held.reverse) :: .plain (List.replicate (slashes / 2) '\\') ::
        (if slashes % 2 = 1 then .plain ('[' :: content ++ [']']) else .tag position content) ::
          scan (position + 1 + (content.length + 1)) 0 0 [] rest := by
  have skipped := scan_skipped (content ++ [']']) (position + 1) 0 [] rest
  simp only [List.append_assoc, List.singleton_append, List.length_append, List.length_singleton]
    at skipped
  simp [scan, tag, skipped]

theorem scan_tag {content rest : List Char}
    (tag : tagContent? (content ++ ']' :: rest) = some content) (position : Nat)
    (held : List Char) :
    scan position 0 0 held ('[' :: (content ++ ']' :: rest)) =
      .plain (unescape held.reverse) :: .plain [] :: .tag position content ::
        scan (position + 1 + (content.length + 1)) 0 0 [] rest :=
  scan_opening tag position 0 held

theorem readPieces_plain (place : Nat) (tags : List OpenTag) (chars : List Char)
    {rest : List Piece} {text : StyledText}
    (behind : readPieces (place + (printedChars chars).length) tags rest = .ok text) :
    readPieces place tags (.plain chars :: rest) =
      .ok ⟨printedChars chars ++ text.chars, text.spans⟩ := by
  simp [readPieces, behind, bind, Except.bind]

theorem readPieces_opens {place position : Nat} {tags : List OpenTag} {content : List Char}
    {rest : List Piece} {tag : OpenTag} (opens : content.head? ≠ some '/')
    (read : OpenTag.ofContent place content = .ok tag) :
    readPieces place tags (.tag position content :: rest) =
      readPieces place (tag :: tags) rest := by
  rw [readPieces, read]
  · rfl
  · rintro closing rfl
    simp at opens

theorem readPieces_closes {place position : Nat} {tag : OpenTag} {tags : List OpenTag}
    {closing : List Char} {rest : List Piece} {spans : List Span} {text : StyledText}
    (named : trim (styleName closing) ≠ "")
    (same : normalTag (trim (styleName closing)) = .ok tag.style)
    (closed : tag.close place = .ok spans) (behind : readPieces place tags rest = .ok text) :
    readPieces place (tag :: tags) (.tag position ('/' :: closing) :: rest) =
      .ok ⟨text.chars, spans ++ text.spans⟩ := by
  simp [readPieces, named, same, close?, closed, behind, bind, Except.bind]
def StyledText.styles (text : StyledText) : List String := text.spans.map Span.style

theorem style_of_between? {span part : Span} {start stop : Nat}
    (found : span.between? start stop = some part) : part.style = span.style := by
  unfold Span.between? at found
  split at found
  · cases found
    rfl
  · cases found

theorem styles_spansOver (spans : List Span) (gap place : Nat) (pieces : List (List Char)) :
    ∀ part ∈ spansOver spans gap place pieces, part.styles ⊆ spans.map Span.style := by
  induction pieces generalizing place with
  | nil => simp [spansOver]
  | cons piece rest ih =>
    intro part member
    rcases List.mem_cons.mp member with rfl | later
    · intro style inside
      obtain ⟨between, found, rfl⟩ := List.mem_map.mp inside
      obtain ⟨span, present, cut⟩ := List.mem_filterMap.mp found
      exact List.mem_map.mpr ⟨span, present, (style_of_between? cut).symm⟩
    · exact ih _ part later

theorem StyledText.styles_divide (text : StyledText) (gap : Nat) (pieces : List (List Char)) :
    ∀ part ∈ text.divide gap pieces, part.styles ⊆ text.styles := by
  unfold StyledText.divide
  split
  · intro part member
    rw [List.mem_singleton.mp member]
    exact List.Subset.refl _
  · exact styles_spansOver text.spans gap 0 pieces

@[simp] theorem StyledText.styles_expandPiece (stop : Nat) (piece : StyledText) :
    (piece.expandPiece stop).styles = piece.styles := by
  simp only [StyledText.expandPiece, StyledText.styles, List.map_map]
  refine List.map_congr_left fun span _ => ?_
  simp only [Function.comp_apply]
  split
  · rfl
  · rfl

@[simp] theorem StyledText.styles_append (first second : StyledText) :
    (first.append second).styles = first.styles ++ second.styles := by
  simp [StyledText.append, StyledText.styles, Function.comp_def, Span.shift]

theorem StyledText.styles_foldr {pieces : List StyledText} {styles : List String}
    (within : ∀ piece ∈ pieces, piece.styles ⊆ styles) :
    (pieces.foldr StyledText.append ⟨[], []⟩).styles ⊆ styles := by
  induction pieces with
  | nil => simp [StyledText.styles]
  | cons piece rest ih =>
    rw [List.foldr_cons, StyledText.styles_append]
    exact List.append_subset.mpr ⟨within piece List.mem_cons_self,
      ih fun other member => within other (List.mem_cons_of_mem piece member)⟩

theorem StyledText.styles_expandTabs (stop : Nat) (line : StyledText) :
    (line.expandTabs stop).styles ⊆ line.styles := by
  unfold StyledText.expandTabs
  split
  · refine StyledText.styles_foldr fun piece member => ?_
    obtain ⟨part, inside, rfl⟩ := List.mem_map.mp member
    rw [StyledText.styles_expandPiece]
    exact styles_spansOver line.spans 0 0 _ part inside
  · exact List.Subset.refl _

theorem StyledText.styles_withChars (text : StyledText) (chars : List Char) :
    (text.withChars chars).styles ⊆ text.styles := by
  unfold StyledText.withChars StyledText.styles
  split
  · exact List.map_subset Span.style List.filter_sublist.subset
  · exact List.Subset.refl _

theorem StyledText.styles_fit (width : Nat) (ellipsis : Bool) (line : StyledText) :
    (line.fit width ellipsis).styles ⊆ line.styles := by
  unfold StyledText.fit
  split
  · exact List.Subset.refl _
  · split
    · exact StyledText.styles_withChars line _
    · exact StyledText.styles_withChars line _

theorem StyledText.styles_lines (wide : WideWord) (width : Nat) (text : StyledText) :
    ∀ line ∈ text.lines wide width, line.styles ⊆ text.styles := by
  intro line member
  obtain ⟨whole, divided, inside⟩ := List.mem_flatMap.mp member
  obtain ⟨piece, wrapped, rfl⟩ := List.mem_map.mp inside
  calc ((piece.dropBlanksBeyond width).fit width (wide = .keep)).styles
    _ ⊆ (piece.dropBlanksBeyond width).styles := StyledText.styles_fit width _ _
    _ ⊆ piece.styles := StyledText.styles_withChars piece _
    _ ⊆ (whole.expandTabs 8).styles := StyledText.styles_divide _ 0 _ piece wrapped
    _ ⊆ whole.styles := StyledText.styles_expandTabs 8 whole
    _ ⊆ text.styles := StyledText.styles_divide text 1 _ whole divided

def IsDrawable (style : String) : Prop := ∀ error, Style.read style ≠ .error (.number error)

theorem Span.check_ok_iff (span : Span) : span.check = .ok () ↔ IsDrawable span.style := by
  unfold Span.check IsDrawable
  cases Style.read span.style with
  | ok style => simp
  | error failure =>
    cases failure with
    | unknown => simp
    | number error => simp

/-- A marked text can be printed if its markup can be read and the styles of every line can be
drawn. -/
def Printable (marked : String) : Prop :=
  ∃ text, StyledText.read marked = .ok text ∧
    ∀ line ∈ text.lines .chop consoleWidth, ∀ style ∈ line.styles, IsDrawable style

theorem printedLines_ok_iff (marked : String) :
    (∃ lines, printedLines marked = .ok lines) ↔ Printable marked := by
  have drawn (lines : List StyledText) : lines.forM StyledText.check = .ok () ↔
      ∀ line ∈ lines, ∀ style ∈ line.styles, IsDrawable style := by
    simp only [Outcome.forM_eq_ok_iff, StyledText.check, StyledText.styles, List.forall_mem_map,
      Span.check_ok_iff]
  constructor
  · rintro ⟨lines, printed⟩
    obtain ⟨text, read, afterText⟩ := Outcome.bind_eq_ok_iff.mp printed
    obtain ⟨_, checked, _⟩ := Outcome.bind_eq_ok_iff.mp afterText
    exact ⟨text, read, (drawn _).mp checked⟩
  · rintro ⟨text, read, drawable⟩
    have checked := (drawn _).mpr drawable
    exact ⟨_, Outcome.bind_eq_ok_iff.mpr ⟨text, read,
      Outcome.bind_eq_ok_iff.mpr ⟨(), checked, rfl⟩⟩⟩

instance (marked : String) : Decidable (Printable marked) :=
  decidable_of_iff ((printedLines marked).toOption.isSome = true) <| by
    rw [← printedLines_ok_iff]
    cases printedLines marked with
    | ok lines => simp [Except.toOption]
    | error error => simp [Except.toOption]

section Styled

structure IsBareName (name : String) : Prop where
  present : name ≠ ""
  trimmed : trim name = name
  lowered : lower name = name
  unclosing : name.toList.head? ≠ some '/'
  unhandled : startsWith "@" name = false
  unset : '=' ∉ name.toList

instance (name : String) : Decidable (IsBareName name) :=
  decidable_of_iff (name ≠ "" ∧ trim name = name ∧ lower name = name ∧
      name.toList.head? ≠ some '/' ∧ startsWith "@" name = false ∧ '=' ∉ name.toList)
    ⟨fun ⟨present, trimmed, lowered, unclosing, unhandled, unset⟩ =>
        ⟨present, trimmed, lowered, unclosing, unhandled, unset⟩,
      fun bare => ⟨bare.present, bare.trimmed, bare.lowered, bare.unclosing, bare.unhandled,
        bare.unset⟩⟩

theorem IsBareName.ne_equals {name : String} (bare : IsBareName name) :
    ∀ c ∈ name.toList, (c != '=') = true :=
  fun _ inside => bne_iff_ne.mpr (ne_of_mem_of_not_mem inside bare.unset)

def IsLoneWord (word : String) : Prop :=
  wordsOf word = [word] ∧ word ∉ ["on", "not", "link", plainStyle] ∧
    Effect.ofWord? word = none ∧ word.toList.head? ≠ some '#' ∧
      between? "color(" ")" word.toList = none ∧ between? "rgb(" ")" word.toList = none

instance (word : String) : Decidable (IsLoneWord word) :=
  inferInstanceAs (Decidable (_ ∧ _ ∧ _ ∧ _ ∧ _ ∧ _))

theorem colorName_of_lone {word : String} (bare : IsBareName word) (lone : IsLoneWord word) :
    colorName word = .ok word ∨ colorName word = .error .unknown := by
  obtain ⟨_, _, _, unhashed, uncalled, unmixed⟩ := lone
  unfold colorName
  rw [bare.lowered]
  dsimp only
  split
  · exact .inl rfl
  · split
    · next digits hashed => simp [hashed] at unhashed
    · rw [uncalled, unmixed]
      exact .inr rfl

theorem read_of_lone {word : String} (bare : IsBareName word) (lone : IsLoneWord word) :
    Style.read word = .ok { color := some word } ∨ Style.read word = .error .unknown := by
  have color := colorName_of_lone bare lone
  obtain ⟨single, other, effectless, _⟩ := lone
  simp only [List.mem_cons, List.not_mem_nil, or_false, not_or] at other
  rw [Style.read, bare.trimmed, if_neg other.2.2.2, single, Style.readWords, bare.lowered]
  dsimp only
  rw [if_neg other.1, if_neg other.2.1, if_neg other.2.2.1, effectless]
  rcases color with known | unknown
  · rw [known]
    exact .inl rfl
  · rw [unknown]
    exact .inr rfl

structure IsStyleName (name : String) : Prop where
  bare : IsBareName name
  normal : normalTag name = .ok name
  drawable : IsDrawable name

variable {name : String}

theorem isStyleName_of_lone (bare : IsBareName name) (lone : IsLoneWord name) :
    IsStyleName name := by
  rcases read_of_lone bare lone with color | unknown
  · have text : Style.text { color := some name } = name := rfl
    refine ⟨bare, ?_, ?_⟩
    · rw [normalTag, normalStyle, color]
      exact congrArg Except.ok text
    · simp [IsDrawable, color]
  · refine ⟨bare, ?_, ?_⟩
    · rw [normalTag, normalStyle, unknown, bare.trimmed, bare.lowered]
      rfl
    · simp [IsDrawable, unknown]

theorem IsStyleName.styleName_eq (named : IsStyleName name) : styleName name.toList = name := by
  have whole : name.toList.takeWhile (· != '=') = name.toList :=
    List.takeWhile_eq_self_iff.mpr named.bare.ne_equals
  rw [styleName, whole, String.ofList_toList]

theorem IsStyleName.ofContent_eq (named : IsStyleName name) (place : Nat) :
    OpenTag.ofContent place name.toList = .ok ⟨name, none, place⟩ := by
  have behind : name.toList.dropWhile (· != '=') = [] :=
    List.dropWhile_eq_nil_iff.mpr named.bare.ne_equals
  rw [OpenTag.ofContent, named.styleName_eq, named.normal, behind]
  rfl

theorem IsStyleName.close_eq (named : IsStyleName name) (place stop : Nat) :
    OpenTag.close ⟨name, none, place⟩ stop = .ok [⟨place, stop, name⟩] := by
  simp [OpenTag.close, OpenTag.check, OpenTag.isHandler, OpenTag.spanTo, named.bare.unhandled, bind,
    Except.bind]

def IsReadable (pieces : List Piece) : Prop :=
  ∀ place, ∃ text, readPieces place [] pieces = .ok text ∧ ∀ style ∈ text.styles, IsDrawable style

theorem isReadable_nil : IsReadable [] := fun place => ⟨⟨[], []⟩, rfl, by simp [StyledText.styles]⟩

theorem IsReadable.plain {rest : List Piece} (readable : IsReadable rest) (chars : List Char) :
    IsReadable (.plain chars :: rest) := by
  intro place
  obtain ⟨text, behind, drawable⟩ := readable (place + (printedChars chars).length)
  exact ⟨_, readPieces_plain place [] chars behind, drawable⟩

theorem IsReadable.styled {rest : List Piece} (readable : IsReadable rest)
    (named : IsStyleName name) (position further : Nat) (inside : List Char) :
    IsReadable (.tag position name.toList :: .plain inside :: .plain [] ::
      .tag further ('/' :: name.toList) :: rest) := by
  intro place
  have same : trim (styleName name.toList) = name := by rw [named.styleName_eq, named.bare.trimmed]
  obtain ⟨text, behind, drawable⟩ :=
    readable (place + (printedChars inside).length + (printedChars []).length)
  have closed : readPieces _ [⟨name, none, place⟩]
      (.tag further ('/' :: name.toList) :: rest) = _ :=
    readPieces_closes (same.symm ▸ named.bare.present) (same.symm ▸ named.normal)
      (named.close_eq place _) behind
  refine ⟨_, (readPieces_opens named.bare.unclosing (named.ofContent_eq place)).trans
    (readPieces_plain place _ inside (readPieces_plain _ _ [] closed)), ?_⟩
  simpa [StyledText.styles, named.drawable] using drawable

theorem isReadable_open (named : IsStyleName name) (position : Nat) (inside : List Char) :
    IsReadable [.tag position name.toList, .plain inside] := by
  intro place
  have ended (stop : Nat) : readPieces stop [⟨name, none, place⟩] [] =
      .ok ⟨[], [⟨place, stop, name⟩]⟩ := by
    simp [readPieces, OpenTag.spanTo]
  refine ⟨_, (readPieces_opens named.bare.unclosing (named.ofContent_eq place)).trans
    (readPieces_plain place _ inside (ended _)), ?_⟩
  simpa [StyledText.styles] using named.drawable

theorem printable_of_isReadable {marked : String}
    (readable : IsReadable (scan 0 0 0 [] marked.toList)) : Printable marked := by
  by_cases opened : marked.toList.contains '[' = true
  · obtain ⟨text, read, drawable⟩ := readable 0
    refine ⟨_, by rw [StyledText.read, if_pos opened, read]; rfl, ?_⟩
    intro line member style inside
    have kept := StyledText.styles_lines _ _ _ line member inside
    refine drawable style ?_
    simpa [StyledText.styles] using kept
  · refine ⟨_, by rw [StyledText.read, if_neg opened], ?_⟩
    intro line member style inside
    have plain := StyledText.styles_lines _ _ _ line member inside
    simp [StyledText.styles] at plain

end Styled

end SqlScaffold.Console
