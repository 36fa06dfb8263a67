import SqlScaffold.Text.Blank

/-!
Texts as sequences of lines. A line ends at any of the line boundaries of Unicode, and a carriage
return with its line feed is one boundary; the other split is at one given character.
-/

namespace SqlScaffold.Text

def lineBoundaries : Ranges :=
  [(0x0A, 0x0D), (0x1C, 0x1E), (0x85, 0x85), (0x2028, 0x2029)]

def isLineBoundary (c : Char) : Bool := lineBoundaries.contains c

/-- Lines of a text whose last `current` characters, newest first, belong to an unfinished line. -/
def linesFrom (current : List Char) : List Char → List (List Char)
  | [] => if current.isEmpty then [] else [current.reverse]
  | '\r' :: '\n' :: rest => current.reverse :: linesFrom [] rest
  | c :: rest =>
    if isLineBoundary c then current.reverse :: linesFrom [] rest
    else linesFrom (c :: current) rest

/-- Splits at every line boundary; a boundary at the end starts no further line. -/
def splitLines (text : String) : List String := (linesFrom [] text.toList).map String.ofList

def splitChars (separator : Char) : List Char → List (List Char)
  | [] => [[]]
  | c :: rest =>
    if c = separator then [] :: splitChars separator rest
    else
      match splitChars separator rest with
      | [] => [[c]]
      | part :: parts => (c :: part) :: parts

def splitAtChar (separator : Char) (text : String) : List String :=
  (splitChars separator text.toList).map String.ofList

def joinWith (separator : String) : List String → String
  | [] => ""
  | [text] => text
  | text :: rest => text ++ separator ++ joinWith separator rest

def splitLastChars (separator : Char) : List Char → Option (List Char × List Char)
  | [] => none
  | c :: rest =>
    match splitLastChars separator rest with
    | some (before, after) => some (c :: before, after)
    | none => if c = separator then some ([], rest) else none

def splitLast (separator : Char) (text : String) : Option (String × String) :=
  (splitLastChars separator text.toList).map fun parts =>
    (String.ofList parts.1, String.ofList parts.2)

def unifyNewlines : List Char → List Char
  | [] => []
  | '\r' :: '\n' :: rest => '\n' :: unifyNewlines rest
  | c :: rest => (if c = '\r' then '\n' else c) :: unifyNewlines rest

def startsWith (start text : String) : Bool := start.toList.isPrefixOf text.toList

def repeated (count : Nat) (c : Char) : String := String.ofList (List.replicate count c)

theorem splitChars_ne_nil (separator : Char) (chars : List Char) :
    splitChars separator chars ≠ [] := by
  cases chars with
  | nil => simp [splitChars]
  | cons c rest =>
    simp only [splitChars]
    split
    · simp
    · split <;> simp

theorem joinWith_splitChars (separator : Char) (chars : List Char) :
    joinWith (String.singleton separator) ((splitChars separator chars).map String.ofList) =
      String.ofList chars := by
  induction chars with
  | nil => rfl
  | cons c rest ih =>
    obtain ⟨part, parts, split⟩ := List.exists_cons_of_ne_nil (splitChars_ne_nil separator rest)
    rw [split] at ih
    apply String.toList_inj.mp
    have unfolded := congrArg String.toList ih
    by_cases same : c = separator
    · subst same
      simpa [splitChars, split, joinWith] using unfolded
    · cases parts with
      | nil => simpa [splitChars, split, same, joinWith] using unfolded
      | cons next parts => simpa [splitChars, split, same, joinWith] using unfolded

/-- Splitting a text at a character loses nothing. -/
theorem joinWith_splitAtChar (separator : Char) (text : String) :
    joinWith (String.singleton separator) (splitAtChar separator text) = text := by
  simpa [splitAtChar] using joinWith_splitChars separator text.toList

end SqlScaffold.Text
