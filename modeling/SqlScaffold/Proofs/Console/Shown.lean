import SqlScaffold.Proofs.Console.Printed

/-!
What a marked text shows. Its tags vanish, whatever they say, and so does a backslash in front of a
bracket; a text in which nothing is marked is shown as it is.
-/

namespace SqlScaffold.Console

open Text

def Piece.shown : Piece → List Char
  | .plain chars => printedChars chars
  | .tag _ _ => []

def shown (marked : List Char) : List Char := (scan 0 0 0 [] marked).flatMap Piece.shown

section Reading

/-- A tag changes which tags are open behind it, and shows nothing. -/
theorem behind_of_readPieces {place position : Nat} {tags : List OpenTag} {content : List Char}
    {rest : List Piece} {text : StyledText}
    (read : readPieces place tags (.tag position content :: rest) = .ok text) :
    ∃ others behind, readPieces place others rest = .ok behind ∧ text.chars = behind.chars := by
  have closed {tag : OpenTag} {outer : List OpenTag}
      (closes : (do
        let spans ← tag.close place
        let behind ← readPieces place outer rest
        Except.ok ⟨behind.chars, spans ++ behind.spans⟩ : Except MarkupError StyledText) =
          .ok text) :
      ∃ others behind, readPieces place others rest = .ok behind ∧ text.chars = behind.chars := by
    obtain ⟨spans, _, afterTag⟩ := Outcome.bind_eq_ok_iff.mp closes
    obtain ⟨behind, later, same⟩ := Outcome.bind_eq_ok_iff.mp afterTag
    cases same
    exact ⟨outer, behind, later, rfl⟩
  rw [readPieces.eq_def] at read
  dsimp only at read
  split at read
  · split at read
    · split at read
      · cases read
      · exact closed read
    · obtain ⟨style, _, afterStyle⟩ := Outcome.bind_eq_ok_iff.mp read
      split at afterStyle
      · cases afterStyle
      · exact closed afterStyle
  · obtain ⟨tag, _, later⟩ := Outcome.bind_eq_ok_iff.mp read
    exact ⟨tag :: tags, text, later, rfl⟩

theorem chars_of_readPieces {pieces : List Piece} {place : Nat} {tags : List OpenTag}
    {text : StyledText} (read : readPieces place tags pieces = .ok text) :
    text.chars = pieces.flatMap Piece.shown := by
  induction pieces generalizing place tags text with
  | nil =>
    cases read
    rfl
  | cons piece rest ih =>
    cases piece with
    | plain chars =>
      obtain ⟨behind, later, same⟩ := Outcome.bind_eq_ok_iff.mp read
      cases same
      rw [List.flatMap_cons, ← ih later]
      rfl
    | tag position content =>
      obtain ⟨others, behind, later, same⟩ := behind_of_readPieces read
      rw [same, ih later]
      rfl

def IsTagless (chars : List Char) : Prop :=
  ∀ rest, '[' :: rest <:+ chars → tagContent? rest = none

theorem IsTagless.tail {c : Char} {rest : List Char} (tagless : IsTagless (c :: rest)) :
    IsTagless rest :=
  fun later inside => tagless later (inside.trans (List.suffix_cons c rest))

theorem IsTagless.cons {c : Char} {rest : List Char} (tagless : IsTagless rest)
    (plain : c = '[' → tagContent? rest = none) : IsTagless (c :: rest) := by
  intro later inside
  rcases List.suffix_cons_iff.mp inside with whole | behind
  · obtain ⟨rfl, rfl⟩ := List.cons.inj whole
    exact plain rfl
  · exact tagless later behind

theorem IsTagless.spaced {chars : List Char} (tagless : IsTagless chars) :
    IsTagless (' ' :: chars) :=
  tagless.cons fun same => absurd same (by decide)

theorem isTagless_of_unopened {chars : List Char} (unopened : '[' ∉ chars) : IsTagless chars :=
  fun _ inside => absurd (inside.subset List.mem_cons_self) unopened

theorem scan_untagged {c : Char} {rest : List Char} (unslashed : c ≠ '\\')
    (untagged : c = '[' → tagContent? rest = none) (position slashes : Nat) (held : List Char) :
    scan position slashes 0 held (c :: rest) =
      scan (position + 1) 0 0 (c :: (List.replicate slashes '\\' ++ held)) rest := by
  by_cases opens : c = '['
  · simp [scan, opens, untagged opens]
  · simp [scan, unslashed, opens]

theorem scan_of_tagless {chars : List Char} (tagless : IsTagless chars) (position slashes : Nat)
    (held : List Char) :
    scan position slashes 0 held chars =
      [.plain (unescape ((List.replicate slashes '\\' ++ held).reverse ++ chars))] := by
  induction chars generalizing position slashes held with
  | nil => rw [scan, List.append_nil]
  | cons c rest ih =>
    have later := ih tagless.tail
    by_cases slash : c = '\\'
    · simp [scan, slash, later, List.replicate_succ]
    · rw [scan_untagged slash fun opens => tagless rest (opens ▸ List.suffix_rfl), later]
      simp

theorem unescape_eq_self {chars : List Char} (unescaped : ¬['\\', '['] <:+: chars) :
    unescape chars = chars := by
  fun_induction unescape chars with
  | case1 => rfl
  | case2 rest _ => exact absurd ⟨[], rest, rfl⟩ unescaped
  | case3 c rest _ ih =>
    rw [ih fun inside => unescaped (inside.trans (List.suffix_cons c rest).isInfix)]

theorem unescaped_of_unopened {chars : List Char} (unopened : '[' ∉ chars) :
    ¬['\\', '['] <:+: chars :=
  fun inside => unopened (inside.subset (by simp))

theorem chars_of_read {marked : String} {text : StyledText}
    (read : StyledText.read marked = .ok text) : text.chars = shown marked.toList := by
  by_cases opened : '[' ∈ marked.toList
  · have found : marked.toList.contains '[' = true := by simpa using opened
    rw [StyledText.read, if_pos found] at read
    obtain ⟨whole, pieces, same⟩ := Outcome.bind_eq_ok_iff.mp read
    cases same
    rw [shown, ← chars_of_readPieces pieces]
  · have absent : ¬marked.toList.contains '[' = true := by simpa using opened
    rw [StyledText.read, if_neg absent] at read
    cases read
    rw [shown, scan_of_tagless (isTagless_of_unopened opened)]
    simp [Piece.shown, unescape_eq_self (unescaped_of_unopened opened)]

end Reading

section Stepping

/-- What is shown does not depend on the place in a text that was read before. -/
theorem shown_scan (position other slashes skipped : Nat) (held chars : List Char) :
    (scan position slashes skipped held chars).flatMap Piece.shown =
      (scan other slashes skipped held chars).flatMap Piece.shown := by
  induction chars generalizing position other slashes skipped held with
  | nil => rfl
  | cons c rest ih =>
    rw [scan, scan]
    split
    · exact ih _ _ _ _ _
    · split
      · exact ih _ _ _ _ _
      · split
        · split
          · exact ih _ _ _ _ _
          · next content found =>
            simp only [List.flatMap_cons]
            rw [ih (position + 1) (other + 1)]
            split
            · rfl
            · rfl
        · exact ih _ _ _ _ _

theorem tagContent?_of_closed {first : Char} {inside : List Char} (starts : startsTag first = true)
    (closed : '[' ∉ inside ∧ ']' ∉ inside) (rest : List Char) :
    tagContent? (first :: inside ++ ']' :: rest) = some (first :: inside) := by
  have taken : (inside ++ ']' :: rest).takeWhile (fun other => other != '[' && other != ']') =
      inside := by
    have other : ∀ c ∈ inside, (c != '[' && c != ']') = true := by
      intro c member
      simp [ne_of_mem_of_not_mem member closed.1, ne_of_mem_of_not_mem member closed.2]
    rw [List.takeWhile_append_of_pos other]
    simp
  simp [tagContent?, starts, taken]

structure IsTagName (name : String) : Prop where
  named : IsStyleName name
  starts : name.toList.head?.any startsTag = true
  closed : '[' ∉ name.toList ∧ ']' ∉ name.toList

theorem IsTagName.opens {name : String} (tag : IsTagName name) (rest : List Char) :
    tagContent? (name.toList ++ ']' :: rest) = some name.toList := by
  have starts := tag.starts
  have closed := tag.closed
  cases spelled : name.toList with
  | nil => simp [spelled] at starts
  | cons first more =>
    simp only [spelled, List.mem_cons, not_or] at starts closed
    exact tagContent?_of_closed (by simpa using starts) ⟨closed.1.2, closed.2.2⟩ rest

theorem IsTagName.closes {name : String} (tag : IsTagName name) (rest : List Char) :
    tagContent? ('/' :: name.toList ++ ']' :: rest) = some ('/' :: name.toList) :=
  tagContent?_of_closed (by decide) tag.closed rest

theorem shown_tag {content rest : List Char}
    (tag : tagContent? (content ++ ']' :: rest) = some content) :
    shown ('[' :: (content ++ ']' :: rest)) = shown rest := by
  rw [shown, scan_tag tag 0 [], List.flatMap_cons, List.flatMap_cons, List.flatMap_cons,
    shown_scan _ 0, ← shown]
  rfl

theorem eq_of_tagContent? {chars content : List Char} (found : tagContent? chars = some content) :
    ∃ rest, chars = content ++ ']' :: rest := by
  unfold tagContent? at found
  split at found
  · cases found
  · next c rest =>
    split at found
    · dsimp only at found
      split at found
      · next closed =>
        cases found
        obtain ⟨more, behind⟩ := List.head?_eq_some_iff.mp closed
        refine ⟨more, ?_⟩
        have before := List.prefix_iff_eq_take.mp
          (List.takeWhile_prefix (l := rest) fun other => other != '[' && other != ']')
        have whole := List.take_append_drop
          (rest.takeWhile fun other => other != '[' && other != ']').length rest
        rw [← before, behind] at whole
        rw [List.cons_append, whole]
      · cases found
    · cases found

theorem opens_or_untagged (c : Char) (rest : List Char) :
    (∃ content more, c = '[' ∧ rest = content ++ ']' :: more ∧
      tagContent? (content ++ ']' :: more) = some content) ∨
        (c = '[' → tagContent? rest = none) := by
  by_cases opens : c = '[' ∧ tagContent? rest ≠ none
  · obtain ⟨opening, tagged⟩ := opens
    obtain ⟨content, tag⟩ := Option.ne_none_iff_exists'.mp tagged
    obtain ⟨more, rfl⟩ := eq_of_tagContent? tag
    exact .inl ⟨content, more, opening, rfl, tag⟩
  · refine .inr fun opening => ?_
    simpa [opening] using opens

theorem scan_starts (position slashes skipped : Nat) (held chars : List Char) :
    ∃ before later, ∀ first, scan position slashes skipped (held ++ first) chars =
      .plain (unescape (first.reverse ++ before)) :: later := by
  induction chars generalizing position slashes skipped held with
  | nil => exact ⟨(List.replicate slashes '\\' ++ held).reverse, [], fun first => by simp [scan]⟩
  | cons c rest ih =>
    by_cases skips : 0 < skipped
    · simpa [scan, skips] using ih (position + 1) slashes (skipped - 1) held
    · obtain rfl : skipped = 0 := by omega
      by_cases slash : c = '\\'
      · simpa [scan, slash] using ih (position + 1) (slashes + 1) 0 held
      · rcases opens_or_untagged c rest with ⟨content, more, rfl, rfl, tag⟩ | untagged
        · exact ⟨held.reverse, _, fun first => by rw [scan_opening tag, List.reverse_append]⟩
        · have plain := ih (position + 1) 0 0 (c :: (List.replicate slashes '\\' ++ held))
          simpa [scan_untagged slash untagged] using plain

def IsLiteral (c : Char) : Prop := c ≠ '[' ∧ c ≠ '\\' ∧ c ≠ ':' ∧ isDropped c = false

instance (c : Char) : Decidable (IsLiteral c) := inferInstanceAs (Decidable (_ ∧ _ ∧ _ ∧ _))

theorem unescape_cons {c : Char} (unslashed : c ≠ '\\') (rest : List Char) :
    unescape (c :: rest) = c :: unescape rest := by
  rw [unescape.eq_def]
  split
  · next same => cases same
  · next same => exact absurd (List.cons.inj same).1 unslashed
  · next same =>
    obtain ⟨rfl, rfl⟩ := List.cons.inj same
    rfl

theorem printedChars_cons {c : Char} (alone : IsLiteral c) (rest : List Char) :
    printedChars (c :: rest) = c :: printedChars rest := by
  obtain ⟨_, _, uncoloned, kept⟩ := alone
  simp [printedChars, dropControls, replaceEmojis, replaceFrom, uncoloned, kept]

theorem shown_cons {c : Char} (alone : IsLiteral c) (rest : List Char) :
    shown (c :: rest) = c :: shown rest := by
  have ⟨unopened, unslashed, _, _⟩ := alone
  obtain ⟨before, later, starts⟩ := scan_starts 1 0 0 [] rest
  have whole : scan 0 0 0 [] (c :: rest) = .plain (unescape (c :: before)) :: later := by
    simpa [scan, unopened, unslashed] using starts [c]
  have behind : scan 1 0 0 [] rest = .plain (unescape before) :: later := by
    simpa using starts []
  calc shown (c :: rest)
    _ = printedChars (unescape (c :: before)) ++ later.flatMap Piece.shown := by
      rw [shown, whole, List.flatMap_cons, Piece.shown]
    _ = c :: (printedChars (unescape before) ++ later.flatMap Piece.shown) := by
      rw [unescape_cons unslashed, printedChars_cons alone, List.cons_append]
    _ = c :: (scan 1 0 0 [] rest).flatMap Piece.shown := by
      rw [behind, List.flatMap_cons, Piece.shown]
    _ = c :: shown rest := by rw [shown, shown_scan 1 0]

end Stepping

section Unmarked

/-- Nothing in the text means anything to the console: no bracket opens a tag or stands behind a
backslash, no name of a picture stands between colons, and every character can be printed. -/
structure IsUnmarked (chars : List Char) : Prop where
  tagless : IsTagless chars
  unescaped : ¬['\\', '['] <:+: chars
  unpictured : replaceEmojis chars = chars
  printed : ∀ c ∈ chars, isDropped c = false

theorem shown_eq_self {chars : List Char} (unmarked : IsUnmarked chars) : shown chars = chars := by
  have kept : dropControls chars = chars :=
    List.filter_eq_self.mpr fun c inside => by simp [unmarked.printed c inside]
  rw [shown, scan_of_tagless unmarked.tagless]
  simp [Piece.shown, unescape_eq_self unmarked.unescaped, printedChars, unmarked.unpictured, kept]

end Unmarked

section Apart

def colonsApart (isOpen : Bool) : List Char → Bool
  | [] => true
  | c :: rest =>
    if c = ':' then !isOpen && colonsApart true rest else colonsApart (isOpen && !isBlank c) rest

theorem colonsApart_closed {chars : List Char} {isOpen : Bool}
    (apart : colonsApart isOpen chars = true) : colonsApart false chars = true := by
  induction chars generalizing isOpen with
  | nil => rfl
  | cons c rest ih =>
    rw [colonsApart] at apart ⊢
    split
    · next colon =>
      rw [if_pos colon, Bool.and_eq_true] at apart
      simpa using apart.2
    · next other =>
      rw [if_neg other] at apart
      exact ih apart

theorem colonsApart_append {first second : List Char} {isOpen : Bool}
    (apart : colonsApart isOpen (first ++ second) = true) :
    colonsApart isOpen first = true ∧ colonsApart false second = true := by
  induction first generalizing isOpen with
  | nil => exact ⟨rfl, colonsApart_closed apart⟩
  | cons c rest ih =>
    rw [List.cons_append, colonsApart] at apart
    rw [colonsApart]
    split
    · next colon =>
      rw [if_pos colon, Bool.and_eq_true] at apart
      obtain ⟨here, later⟩ := ih apart.2
      exact ⟨by rw [apart.1, here, Bool.and_true], later⟩
    · next other =>
      rw [if_neg other] at apart
      exact ih apart

theorem colonsApart_of_uncoloned {chars : List Char} (uncoloned : ':' ∉ chars) (isOpen : Bool) :
    colonsApart isOpen chars = true := by
  induction chars generalizing isOpen with
  | nil => rfl
  | cons c rest ih =>
    rw [List.mem_cons, not_or] at uncoloned
    rw [colonsApart, if_neg (Ne.symm uncoloned.1), ih uncoloned.2]

theorem colonsApart_unescape (chars : List Char) (isOpen : Bool) :
    colonsApart isOpen (unescape chars) = colonsApart isOpen chars := by
  fun_induction unescape chars generalizing isOpen with
  | case1 => rfl
  | case2 rest ih =>
    have slash : isBlank '\\' = false := by decide
    simp [colonsApart, slash, ih]
  | case3 c rest _ ih => simp only [colonsApart, ih]

theorem emojiName?_of_apart {chars : List Char} (apart : colonsApart true chars = true) :
    emojiName? chars = none := by
  induction chars with
  | nil => rfl
  | cons c rest ih =>
    rw [colonsApart] at apart
    split at apart
    · simp at apart
    · next other =>
      by_cases blank : isBlank c = true
      · simp [emojiName?, other, blank]
      · have later := ih (by simpa [blank] using apart)
        simpa [emojiName?, other, blank] using later

theorem replaceEmojis_of_apart {chars : List Char} (apart : colonsApart false chars = true) :
    replaceEmojis chars = chars := by
  unfold replaceEmojis
  induction chars with
  | nil => rfl
  | cons c rest ih =>
    rw [colonsApart] at apart
    split at apart
    · next colon =>
      have behind : colonsApart true rest = true := by simpa using apart
      simp [replaceFrom, emojiName?_of_apart behind, ih (colonsApart_closed behind)]
    · next other => simp [replaceFrom, other, ih apart]

variable {chars : List Char}

theorem length_printedChars_le (apart : colonsApart false chars = true) :
    (printedChars chars).length ≤ chars.length := by
  rw [printedChars, replaceEmojis_of_apart apart]
  exact List.length_filter_le _ _

theorem length_unescape_le (chars : List Char) : (unescape chars).length ≤ chars.length := by
  fun_induction unescape chars with
  | case1 => exact Nat.le_refl _
  | case2 rest ih =>
    simp only [List.length_cons]
    omega
  | case3 c rest _ ih =>
    simp only [List.length_cons]
    omega

theorem length_unescape_lt (escaped : ['\\', '['] <:+: chars) :
    (unescape chars).length < chars.length := by
  fun_induction unescape chars with
  | case1 => simp at escaped
  | case2 rest ih =>
    have shorter := length_unescape_le rest
    simp only [List.length_cons]
    omega
  | case3 c rest unescaped ih =>
    rcases List.infix_cons_iff.mp escaped with here | later
    · obtain ⟨behind, same⟩ := here
      obtain ⟨rfl, rfl⟩ := List.cons.inj same
      exact absurd rfl (unescaped behind rfl)
    · have shorter := ih later
      simp only [List.length_cons]
      omega

theorem length_shown_plain_le (apart : colonsApart false chars = true) :
    (printedChars (unescape chars)).length ≤ chars.length :=
  Nat.le_trans (length_printedChars_le (by rw [colonsApart_unescape, apart]))
    (length_unescape_le chars)

theorem length_shown_le (apart : colonsApart false chars = true) {position : Nat}
    (alternatives : IsTagless chars ∨
      ((scan position 0 0 [] chars).flatMap Piece.shown).length < chars.length) :
    ((scan position 0 0 [] chars).flatMap Piece.shown).length ≤ chars.length := by
  rcases alternatives with tagless | shorter
  · rw [scan_of_tagless tagless, List.flatMap_singleton]
    exact length_shown_plain_le apart
  · exact Nat.le_of_lt shorter

theorem length_shown_tag_lt {content rest : List Char}
    (tag : tagContent? (content ++ ']' :: rest) = some content) (position slashes : Nat)
    (held : List Char)
    (apart : colonsApart false ((List.replicate slashes '\\' ++ held).reverse ++
      '[' :: (content ++ ']' :: rest)) = true)
    (behind : ∀ place, ((scan place 0 0 [] rest).flatMap Piece.shown).length ≤ rest.length) :
    ((scan position slashes 0 held ('[' :: (content ++ ']' :: rest))).flatMap Piece.shown).length <
      slashes + held.length + (content.length + rest.length + 2) := by
  have parts : (List.replicate slashes '\\' ++ held).reverse ++ '[' :: (content ++ ']' :: rest) =
      held.reverse ++ (List.replicate slashes '\\' ++ (('[' :: content ++ [']']) ++ rest)) := by
    simp
  rw [parts] at apart
  obtain ⟨front, afterFront⟩ := colonsApart_append apart
  obtain ⟨_, afterSlashes⟩ := colonsApart_append afterFront
  obtain ⟨bracketed, _⟩ := colonsApart_append afterSlashes
  have held := length_shown_plain_le front
  have uncoloned : ':' ∉ List.replicate (slashes / 2) '\\' := by simp
  have halved := length_printedChars_le (colonsApart_of_uncoloned uncoloned false)
  have inner := length_printedChars_le bracketed
  have later := behind (position + 1 + (content.length + 1))
  rw [scan_opening tag, List.flatMap_cons, List.flatMap_cons, List.flatMap_cons, Piece.shown,
    Piece.shown]
  simp only [List.length_append, List.length_reverse, List.length_replicate, List.length_cons,
    List.length_nil] at held halved inner ⊢
  split
  · rw [Piece.shown]
    omega
  · rw [Piece.shown, List.length_nil]
    omega

/-- A text is not shown at its length unless no bracket opens a tag. The induction is on its length,
since a tag is passed over at once. -/
theorem isTagless_or_shorter (position slashes : Nat) (held chars : List Char)
    (apart : colonsApart false ((List.replicate slashes '\\' ++ held).reverse ++ chars) = true) :
    IsTagless chars ∨ ((scan position slashes 0 held chars).flatMap Piece.shown).length <
      slashes + held.length + chars.length := by
  induction size : chars.length using Nat.strongRecOn generalizing position slashes held chars with
  | ind size ih =>
    subst size
    cases chars with
    | nil => exact .inl (isTagless_of_unopened (by simp))
    | cons c rest =>
      by_cases slash : c = '\\'
      · -- Backslashes are counted until it is known whether a tag stands behind them.
        subst slash
        rcases ih rest.length (by simp) (position + 1) (slashes + 1) held rest
          (by simpa [List.replicate_succ] using apart) rfl with tagless | shorter
        · exact .inl (tagless.cons (by simp))
        · refine .inr ?_
          simp only [scan, Nat.lt_irrefl, if_false, if_true, List.length_cons]
          omega
      · rcases opens_or_untagged c rest with ⟨content, more, rfl, rfl, tag⟩ | untagged
        · have parts : (List.replicate slashes '\\' ++ held).reverse ++
                '[' :: (content ++ ']' :: more) =
              ((List.replicate slashes '\\' ++ held).reverse ++ '[' :: (content ++ [']'])) ++
                more := by simp
          have later : colonsApart false more = true := (colonsApart_append (parts ▸ apart)).2
          have behind (place : Nat) :
              ((scan place 0 0 [] more).flatMap Piece.shown).length ≤ more.length :=
            length_shown_le later
              (by simpa using ih more.length (by simp; omega) place 0 [] more later rfl)
          refine .inr ?_
          have shorter := length_shown_tag_lt tag position slashes held apart behind
          simp only [List.length_cons, List.length_append]
          omega
        · rcases ih rest.length (by simp) (position + 1) 0
            (c :: (List.replicate slashes '\\' ++ held)) rest (by simpa using apart) rfl
            with tagless | shorter
          · exact .inl (tagless.cons untagged)
          · refine .inr ?_
            rw [scan_untagged slash untagged]
            simp only [List.length_cons, List.length_append, List.length_replicate] at shorter ⊢
            omega

/-- A text without names of pictures is shown as it is exactly if it is not marked. -/
theorem shown_eq_self_iff (apart : colonsApart false chars = true) :
    shown chars = chars ↔ IsUnmarked chars := by
  refine ⟨fun same => ?_, shown_eq_self⟩
  have whole : (shown chars).length = chars.length := congrArg List.length same
  have tagless : IsTagless chars := by
    refine (isTagless_or_shorter 0 0 [] chars apart).resolve_right fun shorter => ?_
    rw [← shown] at shorter
    simp only [List.length_nil] at shorter
    omega
  have apartInside : colonsApart false (unescape chars) = true := by
    rw [colonsApart_unescape, apart]
  have printed : dropControls (unescape chars) = chars := by
    rw [shown, scan_of_tagless tagless] at same
    simpa [Piece.shown, printedChars, replaceEmojis_of_apart apartInside] using same
  have kept : (dropControls (unescape chars)).length ≤ (unescape chars).length :=
    List.length_filter_le _ _
  rw [printed] at kept
  have unescaped : ¬['\\', '['] <:+: chars := fun escaped => by
    have shorter := length_unescape_lt escaped
    omega
  rw [unescape_eq_self unescaped] at printed
  refine ⟨tagless, unescaped, replaceEmojis_of_apart apart, fun c inside => ?_⟩
  simpa using List.filter_eq_self.mp printed c inside

end Apart

end SqlScaffold.Console
