import SqlScaffold.Text.Quoted

/-!
Source literals. A literal ends at the first quote that is not escaped, so a reader that undoes the
two escapes finds the text again, whatever the text is and whatever stands behind the literal.
-/

namespace SqlScaffold.Text

theorem mem_escapeLiteral {c : Char} {chars : List Char} (inside : c ∈ chars) :
    c ∈ escapeLiteral chars := by
  induction chars with
  | nil => cases inside
  | cons first rest ih =>
    rw [escapeLiteral]
    rcases List.mem_cons.mp inside with rfl | later
    · split <;> simp
    · split <;> simp [ih later]

def IsPlain (text : String) : Prop := ∀ c ∈ text.toList, c ≠ '\\' ∧ c ≠ '"'

instance (text : String) : Decidable (IsPlain text) := List.decidableBAll _ text.toList

theorem length_escapeLiteral (chars : List Char) : chars.length ≤ (escapeLiteral chars).length := by
  induction chars with
  | nil => simp [escapeLiteral]
  | cons c rest ih =>
    rw [escapeLiteral]
    split
    · simp only [List.length_cons]
      omega
    · simpa using ih

theorem length_escapeLiteral_eq_iff {chars : List Char} :
    (escapeLiteral chars).length = chars.length ↔ ∀ c ∈ chars, c ≠ '\\' ∧ c ≠ '"' := by
  induction chars with
  | nil => simp [escapeLiteral]
  | cons c rest ih =>
    have longer := length_escapeLiteral rest
    rw [escapeLiteral, List.forall_mem_cons, ← ih]
    by_cases special : (c = '\\' || c = '"') = true
    · rw [if_pos special]
      simp only [List.length_cons]
      refine iff_of_false (by omega) fun plain => ?_
      simp [plain.1] at special
    · rw [if_neg special]
      have plain : c ≠ '\\' ∧ c ≠ '"' := by simpa using special
      simp [plain]

theorem escapeLiteral_of_plain {chars : List Char} (plain : ∀ c ∈ chars, c ≠ '\\' ∧ c ≠ '"') :
    escapeLiteral chars = chars := by
  induction chars with
  | nil => rfl
  | cons c rest ih =>
    obtain ⟨here, later⟩ := List.forall_mem_cons.mp plain
    rw [escapeLiteral, if_neg (by simp [here]), ih later]

theorem sourceLiteral_of_plain {text : String} (plain : IsPlain text) :
    sourceLiteral text = "\"" ++ text ++ "\"" := by
  simp [sourceLiteral, escapeLiteral_of_plain plain, ← String.toList_inj]

theorem length_sourceLiteral_eq (text : String) :
    (sourceLiteral text).length = (escapeLiteral text.toList).length + 2 := by
  rw [sourceLiteral, ← String.length_toList, String.toList_ofList]
  simp

theorem length_sourceLiteral (text : String) : text.length + 2 ≤ (sourceLiteral text).length := by
  have longer := length_escapeLiteral text.toList
  rw [String.length_toList] at longer
  rw [length_sourceLiteral_eq]
  omega

/-- Only plain texts get no longer in a literal, but for its quotes. -/
theorem length_sourceLiteral_eq_iff {text : String} :
    (sourceLiteral text).length = text.length + 2 ↔ IsPlain text := by
  rw [IsPlain, ← length_escapeLiteral_eq_iff, length_sourceLiteral_eq, String.length_toList]
  omega

/-- Reads a literal behind its opening quote, with the two escapes, up to the first quote that is not
escaped. The answer is the text and what stands behind that quote. -/
def readQuoted? : List Char → Option (List Char × List Char)
  | [] => none
  | '\\' :: c :: rest =>
    if c = '\\' ∨ c = '"' then (readQuoted? rest).map (Prod.map (c :: ·) id) else none
  | c :: rest =>
    if c = '"' then some ([], rest)
    else if c = '\\' then none
    else (readQuoted? rest).map (Prod.map (c :: ·) id)

theorem readQuoted?_escapeLiteral (chars behind : List Char) :
    readQuoted? (escapeLiteral chars ++ '"' :: behind) = some (chars, behind) := by
  induction chars with
  | nil => simp [escapeLiteral, readQuoted?]
  | cons c rest ih =>
    by_cases special : c = '\\' ∨ c = '"'
    · rcases special with rfl | rfl <;> simp [escapeLiteral, readQuoted?, ih]
    · have quote : c ≠ '"' := fun same => special (.inr same)
      have backslash : c ≠ '\\' := fun same => special (.inl same)
      simp [escapeLiteral, readQuoted?, quote, backslash, ih]

theorem eq_escapeLiteral_of_readQuoted? {written chars behind : List Char}
    (read : readQuoted? written = some (chars, behind)) :
    written = escapeLiteral chars ++ '"' :: behind := by
  fun_induction readQuoted? written generalizing chars behind with
  | case1 => cases read
  | case2 c rest special ih =>
    obtain ⟨⟨tail, further⟩, found, same⟩ := Option.map_eq_some_iff.mp read
    cases same
    rcases special with rfl | rfl <;> simp [escapeLiteral, ih found]
  | case3 => cases read
  | case4 =>
    cases read
    rfl
  | case5 => cases read
  | case6 c rest _ quote backslash ih =>
    obtain ⟨⟨tail, further⟩, found, same⟩ := Option.map_eq_some_iff.mp read
    cases same
    simp [escapeLiteral, quote, backslash, ih found]

def readEscaped? : List Char → Option (List Char)
  | [] => none
  | '\\' :: c :: rest =>
    if c = '\\' ∨ c = '"' then (readEscaped? rest).map (c :: ·) else none
  | c :: rest =>
    if c = '"' then if rest = [] then some [] else none
    else if c = '\\' then none
    else (readEscaped? rest).map (c :: ·)

theorem readEscaped?_eq_some_iff {written chars : List Char} :
    readEscaped? written = some chars ↔ readQuoted? written = some (chars, []) := by
  fun_induction readEscaped? written generalizing chars with
  | case1 => simp [readQuoted?]
  | case2 c rest special ih => simp [readQuoted?, special, ih, Option.map_eq_some_iff]
  | case3 c rest plain => simp [readQuoted?, plain]
  | case4 => simp [readQuoted?]
  | case5 rest filled => simp [readQuoted?, filled]
  | case6 => simp [readQuoted?]
  | case7 c rest _ quote backslash ih =>
    simp [readQuoted?, quote, backslash, ih, Option.map_eq_some_iff]

def readLiteral? (literal : String) : Option String :=
  match literal.toList with
  | '"' :: rest => (readEscaped? rest).map String.ofList
  | _ => none

theorem toList_sourceLiteral (text : String) :
    (sourceLiteral text).toList = '"' :: (escapeLiteral text.toList ++ ['"']) := by
  simp [sourceLiteral]

/-- Only the literal of a text stands for the text. -/
theorem readLiteral?_eq_some_iff {literal text : String} :
    readLiteral? literal = some text ↔ literal = sourceLiteral text := by
  constructor
  · intro read
    unfold readLiteral? at read
    split at read
    · next rest opened =>
      obtain ⟨chars, found, rfl⟩ := Option.map_eq_some_iff.mp read
      have written := eq_escapeLiteral_of_readQuoted? (readEscaped?_eq_some_iff.mp found)
      rw [← String.toList_inj, opened, toList_sourceLiteral, written, String.toList_ofList]
    · cases read
  · rintro rfl
    have read : readEscaped? (escapeLiteral text.toList ++ ['"']) = some text.toList :=
      readEscaped?_eq_some_iff.mpr (readQuoted?_escapeLiteral text.toList [])
    simp [readLiteral?, toList_sourceLiteral, read]

theorem sourceLiteral_inj {first second : String}
    (same : sourceLiteral first = sourceLiteral second) : first = second := by
  have read : readLiteral? (sourceLiteral first) = some first := readLiteral?_eq_some_iff.mpr rfl
  rw [readLiteral?_eq_some_iff.mpr same] at read
  exact (Option.some.inj read).symm

def replaceChar (old : Char) (new chars : List Char) : List Char :=
  chars.flatMap fun c => if c = old then new else [c]

/-- The escapes can be put in one after the other, the backslash before the quote. -/
theorem escapeLiteral_eq_replaceChar (chars : List Char) :
    escapeLiteral chars = replaceChar '"' ['\\', '"'] (replaceChar '\\' ['\\', '\\'] chars) := by
  unfold replaceChar
  induction chars with
  | nil => rfl
  | cons c rest ih =>
    by_cases backslash : c = '\\'
    · simp [escapeLiteral, backslash, ih]
    · by_cases quote : c = '"'
      · simp [escapeLiteral, quote, ih]
      · simp [escapeLiteral, backslash, quote, ih]

/-- How the literal of a text is written, and what a reader makes of it from left to right: it comes
to the end of the text at the last quote of the literal, and at none before it. -/
structure IsFoundAgain (text : String) : Prop where
  written : (sourceLiteral text).toList =
    '"' :: (replaceChar '"' ['\\', '"'] (replaceChar '\\' ['\\', '\\'] text.toList) ++ ['"'])
  read : ∀ behind,
    readQuoted? ((sourceLiteral text).toList.tail ++ behind) = some (text.toList, behind)
  unended : ∀ part, part <+: (sourceLiteral text).toList.tail →
    part ≠ (sourceLiteral text).toList.tail → readQuoted? part = none

theorem sourceLiteral_readsBack :
    (∀ text, IsFoundAgain text) ∧ Function.Injective sourceLiteral := by
  have read (text : String) (behind : List Char) :
      readQuoted? ((sourceLiteral text).toList.tail ++ behind) = some (text.toList, behind) := by
    rw [toList_sourceLiteral, List.tail_cons, List.append_assoc]
    exact readQuoted?_escapeLiteral text.toList behind
  refine ⟨fun text => ⟨?written, read text, ?unended⟩, fun _ _ => sourceLiteral_inj⟩
  case written => rw [toList_sourceLiteral, escapeLiteral_eq_replaceChar]
  case unended =>
    rintro part ⟨further, whole⟩ proper
    rw [Option.eq_none_iff_forall_ne_some]
    rintro ⟨chars, behind⟩ found
    -- What ends the reading of a part ends that of the whole, with the rest behind it.
    have longer := readQuoted?_escapeLiteral chars (behind ++ further)
    rw [← List.cons_append, ← List.append_assoc, ← eq_escapeLiteral_of_readQuoted? found, whole,
      ← List.append_nil (sourceLiteral text).toList.tail, read] at longer
    have nothing : behind = [] ∧ further = [] := by
      simpa using congrArg (Option.map Prod.snd) longer
    rw [nothing.2, List.append_nil] at whole
    exact proper whole

end SqlScaffold.Text
