import SqlScaffold.Text.Ranges

/-!
Blank characters: the white space of Unicode and the four separators from U+001C to U+001F.
A text is trimmed by dropping the blanks at its ends.
-/

namespace SqlScaffold.Text

def blankRanges : Ranges :=
  [(0x09, 0x0D), (0x1C, 0x20), (0x85, 0x85), (0xA0, 0xA0), (0x1680, 0x1680), (0x2000, 0x200A),
    (0x2028, 0x2029), (0x202F, 0x202F), (0x205F, 0x205F), (0x3000, 0x3000)]

def isBlank (c : Char) : Bool := blankRanges.contains c

def dropTrailingBlanks : List Char → List Char
  | [] => []
  | c :: rest =>
    match dropTrailingBlanks rest with
    | [] => if isBlank c then [] else [c]
    | kept => c :: kept

def trimEnd (text : String) : String := String.ofList (dropTrailingBlanks text.toList)

def trim (text : String) : String :=
  String.ofList (dropTrailingBlanks (text.toList.dropWhile isBlank))

def allBlank (text : String) : Bool := text.toList.all isBlank

theorem dropTrailingBlanks_eq_nil_iff (chars : List Char) :
    dropTrailingBlanks chars = [] ↔ ∀ c ∈ chars, isBlank c = true := by
  induction chars with
  | nil => simp [dropTrailingBlanks]
  | cons c rest ih =>
    simp only [dropTrailingBlanks, List.mem_cons, forall_eq_or_imp, ← ih]
    split
    · next empty => by_cases blank : isBlank c <;> simp [blank, empty]
    · next kept =>
      refine ⟨fun impossible => by simp at impossible, fun both => absurd both.2 ?_⟩
      exact kept

end SqlScaffold.Text
