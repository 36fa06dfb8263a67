import SqlScaffold.Text.Lines

/-!
Splitting and joining. Splitting at a character finds the parts between its occurrences, none of
which has it, and joining puts a separator between two parts only, so that a joined text has the
characters of its parts and grows with every part behind it. The lines of a text follow from those of
its parts.
-/

namespace SqlScaffold.Text

theorem splitChars_of_not_mem {separator : Char} {chars : List Char} (absent : separator ∉ chars) :
    splitChars separator chars = [chars] := by
  induction chars with
  | nil => rfl
  | cons c rest ih =>
    simp only [List.mem_cons, not_or] at absent
    simp [splitChars, Ne.symm absent.1, ih absent.2]

theorem splitAtChar_of_not_mem {separator : Char} {text : String}
    (absent : separator ∉ text.toList) : splitAtChar separator text = [text] := by
  simp [splitAtChar, splitChars_of_not_mem absent]

theorem splitAtChar_ne_nil (separator : Char) (text : String) :
    splitAtChar separator text ≠ [] := by
  simpa [splitAtChar] using splitChars_ne_nil separator text.toList

theorem splitChars_append_separator (separator : Char) (part rest : List Char) :
    splitChars separator (part ++ separator :: rest) =
      splitChars separator part ++ splitChars separator rest := by
  induction part with
  | nil => simp [splitChars]
  | cons c tail ih =>
    obtain ⟨first, others, split⟩ := List.exists_cons_of_ne_nil (splitChars_ne_nil separator tail)
    by_cases same : c = separator
    · simp [splitChars, same, ih]
    · simp [splitChars, same, ih, split]

theorem splitChars_append {separator : Char} {part : List Char} (absent : separator ∉ part)
    (rest : List Char) :
    splitChars separator (part ++ separator :: rest) = part :: splitChars separator rest := by
  rw [splitChars_append_separator, splitChars_of_not_mem absent, List.singleton_append]

theorem mem_of_mem_splitChars {separator : Char} {chars part : List Char}
    (listed : part ∈ splitChars separator chars) : ∀ c ∈ part, c ∈ chars ∧ c ≠ separator := by
  induction chars generalizing part with
  | nil =>
    have empty : part = [] := by simpa [splitChars] using listed
    simp [empty]
  | cons first rest ih =>
    intro c inside
    by_cases same : first = separator
    · simp only [splitChars, same, if_true, List.mem_cons] at listed
      rcases listed with rfl | behind
      · cases inside
      · exact ⟨List.mem_cons_of_mem _ (ih behind c inside).1, (ih behind c inside).2⟩
    · obtain ⟨head, tail, split⟩ := List.exists_cons_of_ne_nil (splitChars_ne_nil separator rest)
      simp only [splitChars, same, if_false, split, List.mem_cons] at listed
      rcases listed with rfl | behind
      · rcases List.mem_cons.mp inside with rfl | later
        · exact ⟨List.mem_cons_self, same⟩
        · have found := ih (by simp [split]) c later
          exact ⟨List.mem_cons_of_mem _ found.1, found.2⟩
      · have found := ih (by simp [split, behind]) c inside
        exact ⟨List.mem_cons_of_mem _ found.1, found.2⟩

theorem mem_of_mem_splitAtChar {separator : Char} {text part : String}
    (listed : part ∈ splitAtChar separator text) :
    ∀ c ∈ part.toList, c ∈ text.toList ∧ c ≠ separator := by
  obtain ⟨chars, inside, rfl⟩ := List.mem_map.mp listed
  simpa using mem_of_mem_splitChars inside

theorem joinWith_cons_of_ne_nil (separator part : String) {rest : List String}
    (nonempty : rest ≠ []) :
    joinWith separator (part :: rest) = part ++ separator ++ joinWith separator rest := by
  cases rest with
  | nil => contradiction
  | cons next rest => rfl

theorem joinWith_append_singleton (separator : String) {parts : List String} (nonempty : parts ≠ [])
    (last : String) :
    joinWith separator (parts ++ [last]) = joinWith separator parts ++ separator ++ last := by
  induction parts with
  | nil => contradiction
  | cons part rest ih =>
    cases rest with
    | nil => rfl
    | cons next rest =>
      rw [List.cons_append, joinWith_cons_of_ne_nil _ _ (by simp), ih (List.cons_ne_nil next rest),
        joinWith_cons_of_ne_nil _ _ (List.cons_ne_nil next rest)]
      simp only [String.append_assoc]

theorem exists_joinWith_eq_append (separator : String) (before : List String) (last : String) :
    ∃ start, joinWith separator (before ++ [last]) = start ++ last := by
  by_cases empty : before = []
  · subst empty
    exact ⟨"", by simp [joinWith]⟩
  · exact ⟨_, joinWith_append_singleton separator empty last⟩

theorem mem_joinWith (separator : String) (c : Char) (other : c ∉ separator.toList)
    (parts : List String) :
    c ∈ (joinWith separator parts).toList ↔ ∃ part ∈ parts, c ∈ part.toList := by
  induction parts with
  | nil => simp [joinWith]
  | cons part rest ih =>
    cases rest with
    | nil => simp [joinWith]
    | cons next rest =>
      simp only [joinWith, String.toList_append, List.mem_append, other, or_false, ih,
        List.mem_cons, exists_eq_or_imp]

/-- Parts that hold no separator are found again where a joined text is split. -/
theorem splitAtChar_joinWith {separator : Char} {parts : List String} (nonempty : parts ≠ [])
    (absent : ∀ part ∈ parts, separator ∉ part.toList) :
    splitAtChar separator (joinWith (String.singleton separator) parts) = parts := by
  induction parts with
  | nil => contradiction
  | cons part rest ih =>
    obtain ⟨here, later⟩ := List.forall_mem_cons.mp absent
    cases rest with
    | nil => exact splitAtChar_of_not_mem here
    | cons next rest =>
      have behind := ih (List.cons_ne_nil next rest) later
      simp only [splitAtChar] at behind ⊢
      simp [joinWith, String.toList_append, splitChars_append here, behind]

theorem mem_splitAtChar_joinWith {separator : Char} {part : String} {parts : List String}
    (absent : separator ∉ part.toList) (inside : part ∈ parts) :
    part ∈ splitAtChar separator (joinWith (String.singleton separator) parts) := by
  have split (first second : String) :
      splitAtChar separator (first ++ String.singleton separator ++ second) =
        splitAtChar separator first ++ splitAtChar separator second := by
    simp [splitAtChar, splitChars_append_separator]
  induction parts with
  | nil => cases inside
  | cons first rest ih =>
    cases rest with
    | nil =>
      rw [joinWith, ← List.mem_singleton.mp inside, splitAtChar_of_not_mem absent]
      exact List.mem_singleton_self part
    | cons next rest =>
      rw [joinWith_cons_of_ne_nil _ _ (List.cons_ne_nil next rest), split, List.mem_append]
      rcases List.mem_cons.mp inside with rfl | later
      · exact .inl (by rw [splitAtChar_of_not_mem absent]; exact List.mem_singleton_self part)
      · exact .inr (ih later)

theorem infix_joinWith (separator : String) {part : String} {parts : List String}
    (inside : part ∈ parts) : part.toList <:+: (joinWith separator parts).toList := by
  induction parts with
  | nil => cases inside
  | cons first rest ih =>
    cases rest with
    | nil => rw [List.mem_singleton.mp inside]; exact List.infix_rfl
    | cons next rest =>
      rw [joinWith_cons_of_ne_nil _ _ (List.cons_ne_nil next rest), String.toList_append,
        String.toList_append]
      rcases List.mem_cons.mp inside with rfl | later
      · rw [List.append_assoc]
        exact (List.prefix_append _ _).isInfix
      · exact (ih later).trans (List.suffix_append _ _).isInfix

theorem size_joinWith_append (separator : String) (first second : List String) :
    (joinWith separator first).utf8ByteSize ≤
      (joinWith separator (first ++ second)).utf8ByteSize := by
  induction first with
  | nil => simp [joinWith]
  | cons text rest ih =>
    cases rest with
    | nil =>
      cases second with
      | nil => simp
      | cons next further =>
        simp only [List.cons_append, List.nil_append, joinWith, String.utf8ByteSize_append]
        omega
    | cons next further =>
      simp only [List.cons_append, joinWith, String.utf8ByteSize_append] at ih ⊢
      omega

def textOf : List String → String
  | [] => ""
  | line :: rest => line ++ "\n" ++ textOf rest

@[simp] theorem textOf_append (first second : List String) :
    textOf (first ++ second) = textOf first ++ textOf second := by
  induction first with
  | nil => simp [textOf]
  | cons line rest ih => simp [textOf, ih, String.append_assoc]

theorem textOf_eq_joinWith {lines : List String} (nonempty : lines ≠ []) :
    textOf lines = joinWith "\n" lines ++ "\n" := by
  induction lines with
  | nil => contradiction
  | cons line rest ih =>
    cases rest with
    | nil => simp [textOf, joinWith]
    | cons next rest =>
      rw [textOf, ih (List.cons_ne_nil next rest)]
      simp [joinWith, String.append_assoc]

theorem joinWith_append_last (lines : List String) (last : String) :
    joinWith "\n" (lines ++ [last]) = textOf lines ++ last := by
  by_cases empty : lines = []
  · simp [empty, joinWith, textOf]
  · rw [joinWith_append_singleton _ empty, textOf_eq_joinWith empty]

theorem joinWith_textOf (groups : List (List String)) :
    joinWith "" (groups.map textOf) = textOf groups.flatten := by
  induction groups with
  | nil => rfl
  | cons group rest ih =>
    cases rest with
    | nil => simp [joinWith]
    | cons next rest =>
      rw [List.flatten_cons, textOf_append, ← ih]
      simp [joinWith]

theorem infix_textOf {line : String} {lines : List String} (inside : line ∈ lines) :
    (line ++ "\n").toList <:+: (textOf lines).toList := by
  obtain ⟨before, after, rfl⟩ := List.append_of_mem inside
  refine ⟨(textOf before).toList, (textOf after).toList, ?_⟩
  simp [textOf, String.append_assoc]

theorem infix_textOf_ending {start ending : String} {lines : List String}
    (inside : start ++ ending ∈ lines) : (ending ++ "\n").toList <:+: (textOf lines).toList := by
  have last : (ending ++ "\n").toList <:+ (start ++ ending ++ "\n").toList :=
    ⟨start.toList, by simp⟩
  exact last.isInfix.trans (infix_textOf inside)

theorem mem_textOf {lines : List String} {c : Char} (inside : c ∈ (textOf lines).toList) :
    c = '\n' ∨ ∃ line ∈ lines, c ∈ line.toList := by
  induction lines with
  | nil => simp [textOf] at inside
  | cons line rest ih =>
    simp only [textOf, String.toList_append, List.mem_append] at inside
    rcases inside with (here | ending) | later
    · exact Or.inr ⟨line, List.mem_cons_self, here⟩
    · exact Or.inl (by simpa using ending)
    · rcases ih later with newline | ⟨other, member, there⟩
      · exact Or.inl newline
      · exact Or.inr ⟨other, List.mem_cons_of_mem line member, there⟩

theorem linesFrom_append_inline {part : List Char} (unbroken : ∀ c ∈ part, isLineBoundary c = false)
    (current rest : List Char) :
    linesFrom current (part ++ rest) = linesFrom (part.reverse ++ current) rest := by
  induction part generalizing current with
  | nil => rfl
  | cons c tail ih =>
    obtain ⟨plain, later⟩ := List.forall_mem_cons.mp unbroken
    rw [List.cons_append, linesFrom, if_neg (by simp [plain]), ih later]
    · simp
    · rintro next rfl _
      exact absurd plain (by decide)

theorem linesFrom_append {line : List Char} (unbroken : ∀ c ∈ line, isLineBoundary c = false)
    (current rest : List Char) :
    linesFrom current (line ++ '\n' :: rest) =
      (current.reverse ++ line) :: linesFrom [] rest := by
  have boundary : isLineBoundary '\n' = true := by decide
  rw [linesFrom_append_inline unbroken]
  simp [linesFrom, boundary]

/-- A carriage return that no line feed follows is still one when more stands behind it. -/
theorem apart_append {c : Char} {tail further : List Char}
    (apart : ∀ rest, c = '\r' → tail = '\n' :: rest → False)
    (ends : c = '\r' → tail = [] → further.head? ≠ some '\n') :
    ∀ rest, c = '\r' → tail ++ further = '\n' :: rest → False := by
  intro rest same behind
  cases tail with
  | nil => exact ends same rfl (by simp [show further = _ from behind])
  | cons other others =>
    obtain ⟨rfl, _⟩ := List.cons.inj behind
    exact apart others same rfl

theorem linesFrom_append_newline (current chars rest : List Char) :
    ∃ empty, linesFrom current (chars ++ '\n' :: rest) =
      linesFrom current chars ++ empty ++ linesFrom [] rest ∧ ∀ line ∈ empty, line = [] := by
  have boundary : isLineBoundary '\n' = true := by decide
  fun_induction linesFrom current chars with
  | case1 current blank =>
    have fresh : current = [] := by simpa using blank
    exact ⟨[[]], by simp [linesFrom, boundary, fresh], by simp⟩
  | case2 current filled => exact ⟨[], by simp [linesFrom, boundary], by simp⟩
  | case3 current tail ih =>
    obtain ⟨empty, lines, blanks⟩ := ih
    exact ⟨empty, by simp [linesFrom, lines], blanks⟩
  | case4 current c tail apart ends ih =>
    obtain ⟨empty, lines, blanks⟩ := ih
    by_cases pair : c = '\r' ∧ tail = []
    · -- The carriage return and the line feed behind it are one boundary.
      obtain ⟨rfl, rfl⟩ := pair
      exact ⟨[], by simp [linesFrom], by simp⟩
    · refine ⟨empty, ?_, blanks⟩
      rw [List.cons_append, linesFrom, if_pos ends, lines]
      · simp
      · exact apart_append apart fun same last => absurd ⟨same, last⟩ pair
  | case5 current c tail apart plain ih =>
    obtain ⟨empty, lines, blanks⟩ := ih
    refine ⟨empty, ?_, blanks⟩
    rw [List.cons_append, linesFrom, if_neg plain, lines]
    rintro next rfl _
    exact plain (by decide)

theorem linesFrom_append_current (inner : List Char) {chars : List Char}
    (nonempty : inner ≠ [] ∨ chars ≠ []) (current : List Char) : ∃ first rest, linesFrom inner chars = first :: rest ∧
      linesFrom (inner ++ current) chars = (current.reverse ++ first) :: rest := by
  fun_induction linesFrom inner chars with
  | case1 inner blank => simp [List.isEmpty_iff.mp blank] at nonempty
  | case2 inner filled =>
    have given : inner ≠ [] := by simpa using filled
    exact ⟨inner.reverse, [], rfl, by simp [linesFrom, given]⟩
  | case3 inner tail ih => exact ⟨inner.reverse, _, rfl, by simp [linesFrom]⟩
  | case4 inner c tail apart ends ih =>
    refine ⟨inner.reverse, _, rfl, ?_⟩
    rw [linesFrom, if_pos ends, List.reverse_append]
    exact apart
  | case5 inner c tail apart plain ih =>
    obtain ⟨first, rest, lines, prefixed⟩ := ih (.inl (List.cons_ne_nil c inner))
    refine ⟨first, rest, lines, ?_⟩
    rw [linesFrom, if_neg plain]
    · exact prefixed
    · exact apart

theorem linesFrom_append_last {ending : List Char}
    (unbroken : ∀ c ∈ ending, isLineBoundary c = false) (nonempty : ending ≠ [])
    (current chars : List Char) : ∃ lines start,
      linesFrom current (chars ++ ending) = lines ++ [start ++ ending] := by
  have ended (current : List Char) : linesFrom current ending = [current.reverse ++ ending] := by
    have whole := linesFrom_append_inline unbroken current []
    simpa [linesFrom, nonempty] using whole
  fun_induction linesFrom current chars with
  | case1 current => exact ⟨[], current.reverse, ended current⟩
  | case2 current => exact ⟨[], current.reverse, ended current⟩
  | case3 current tail ih =>
    obtain ⟨lines, start, read⟩ := ih
    exact ⟨current.reverse :: lines, start, by simp [linesFrom, read]⟩
  | case4 current c tail apart ends ih =>
    obtain ⟨lines, start, read⟩ := ih
    refine ⟨current.reverse :: lines, start, ?_⟩
    rw [List.cons_append, linesFrom, if_pos ends, read]
    · rfl
    · refine apart_append apart fun _ _ first => ?_
      exact absurd (unbroken '\n' (List.mem_of_head? first)) (by decide)
  | case5 current c tail apart plain ih =>
    obtain ⟨lines, start, read⟩ := ih
    refine ⟨lines, start, ?_⟩
    rw [List.cons_append, linesFrom, if_neg plain, read]
    rintro next rfl _
    exact plain (by decide)

theorem mem_of_mem_linesFrom {current chars line : List Char}
    (listed : line ∈ linesFrom current chars) : ∀ c ∈ line, c ∈ current ∨ c ∈ chars := by
  fun_induction linesFrom current chars with
  | case1 => cases listed
  | case2 current =>
    rw [List.mem_singleton.mp listed]
    exact fun c inside => .inl (List.mem_reverse.mp inside)
  | case3 current rest ih =>
    intro c inside
    rcases List.mem_cons.mp listed with rfl | later
    · exact .inl (List.mem_reverse.mp inside)
    · simp [(ih later c inside).resolve_left (List.not_mem_nil)]
  | case4 current first rest _ _ ih =>
    intro c inside
    rcases List.mem_cons.mp listed with rfl | later
    · exact .inl (List.mem_reverse.mp inside)
    · simp [(ih later c inside).resolve_left (List.not_mem_nil)]
  | case5 current first rest _ _ ih =>
    intro c inside
    rcases ih listed c inside with here | later
    · rcases List.mem_cons.mp here with rfl | before
      · exact .inr List.mem_cons_self
      · exact .inl before
    · exact .inr (List.mem_cons_of_mem first later)

end SqlScaffold.Text
