import SqlScaffold.Files.FileTree
import SqlScaffold.Json.Reader
import SqlScaffold.Json.Writer
import SqlScaffold.Proofs.Number.Letters

/-!
Documents as contents of files. Carriage returns are escaped in documents, so that a document comes
back from a file as it was written.
-/

namespace SqlScaffold

namespace Text

theorem unifyNewlines_of_not_mem {chars : List Char} (absent : '\r' ∉ chars) :
    unifyNewlines chars = chars := by
  induction chars with
  | nil => rfl
  | cons c rest ih =>
    simp only [List.mem_cons, not_or] at absent
    have other : c ≠ '\r' := Ne.symm absent.1
    rw [unifyNewlines, if_neg other, ih absent.2]
    exact fun _ same _ => other same

theorem not_mem_hexDigits {c : Char} (other : ∀ value < 16, hexDigit value ≠ c) (width value : Nat) :
    c ∉ hexDigits width value := by
  induction width with
  | zero => simp [hexDigits]
  | succ width ih =>
    have digit := other (value / Nat.pow 16 width % 16) (Nat.mod_lt _ (by decide))
    rw [hexDigits, List.mem_cons, not_or]
    exact ⟨digit.symm, ih⟩

end Text

namespace Json

theorem return_not_mem_writeText (text : String) : '\r' ∉ writeText text := by
  have digits := Text.not_mem_hexDigits (c := '\r') (by decide)
  have escaped : ∀ c : Char, '\r' ∉ escapeChar c := by
    intro c
    unfold escapeChar
    repeat' split
    all_goals grind
  simp [writeText, escaped]

theorem return_not_mem_lineBreak (level : Nat) : '\r' ∉ lineBreak level := by
  simp [lineBreak, List.mem_replicate]

theorem return_not_mem_number (value : Number.Floating) :
    '\r' ∉ (value.text numberNames).toList := by
  cases value with
  | undefined => decide
  | infinite negative => cases negative <;> decide
  | finite decimal =>
    simpa [Number.Floating.text] using
      Number.not_mem_chars (c := '\r') (by decide) (by decide) decimal

mutual

theorem return_not_mem_write (level : Nat) (value : Value) : '\r' ∉ write level value := by
  cases value with
  | null => simp [write]
  | bool flag => cases flag <;> simp [write]
  | int number => exact Number.not_mem_toString (by decide) (by decide) number
  | float number => exact return_not_mem_number number
  | text content => exact return_not_mem_writeText content
  | list items =>
    cases items with
    | nil => simp [write]
    | cons first rest =>
      simp [write, return_not_mem_lineBreak, return_not_mem_write (level + 1) first,
        return_not_mem_writeItems (level + 1) rest]
  | object entries =>
    cases entries with
    | nil => simp [write]
    | cons entry rest =>
      obtain ⟨key, value⟩ := entry
      simp [write, return_not_mem_lineBreak, return_not_mem_writeText,
        return_not_mem_write (level + 1) value, return_not_mem_writeEntries (level + 1) rest]

theorem return_not_mem_writeItems (level : Nat) (items : List Value) :
    '\r' ∉ writeItems level items := by
  cases items with
  | nil => simp [writeItems]
  | cons item rest =>
    simp [writeItems, return_not_mem_lineBreak, return_not_mem_write level item,
      return_not_mem_writeItems level rest]

theorem return_not_mem_writeEntries (level : Nat) (entries : Entries) :
    '\r' ∉ writeEntries level entries := by
  cases entries with
  | nil => simp [writeEntries]
  | cons entry rest =>
    obtain ⟨key, value⟩ := entry
    simp [writeEntries, return_not_mem_lineBreak, return_not_mem_writeText,
      return_not_mem_write level value, return_not_mem_writeEntries level rest]

end

theorem readText_document (value : Value) :
    (Files.Content.text (document value)).readText = .ok (document value) := by
  have kept : Text.unifyNewlines (document value).toList = (document value).toList :=
    Text.unifyNewlines_of_not_mem (by simpa [document] using return_not_mem_write 0 value)
  simp [Files.Content.readText, Files.Content.chars, Except.map, kept]

/-- Reading a written document is reading what was written, character by character. -/
theorem read_document (value : Value) :
    read (document value) =
      (readDocument Text.replacementChar (write 0 value)).mapError (locate (write 0 value)) := by
  simp [read, readWith, document]

end Json

end SqlScaffold
