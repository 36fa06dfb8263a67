import SqlScaffold.Value

/-!
Writing JSON documents: one member or item a line, indented by two blanks a level. Texts keep
every character that needs no escape.
-/

namespace SqlScaffold.Json

open Number Text

def escapeChar (c : Char) : List Char :=
  if c = '"' || c = '\\' then ['\\', c]
  else if c = '\n' then ['\\', 'n']
  else if c = '\r' then ['\\', 'r']
  else if c = '\t' then ['\\', 't']
  else if c = Char.ofNat 8 then ['\\', 'b']
  else if c = Char.ofNat 12 then ['\\', 'f']
  else if c.toNat < 0x20 then '\\' :: 'u' :: hexDigits 4 c.toNat
  else [c]

def writeText (text : String) : List Char := '"' :: text.toList.flatMap escapeChar ++ ['"']

def numberNames : SpecialNames := ⟨"NaN", "Infinity"⟩

def lineBreak (level : Nat) : List Char := '\n' :: List.replicate (2 * level) ' '

mutual

/-- Writes a value whose first line is already indented; further lines are at `level` or deeper. -/
def write (level : Nat) : Value → List Char
  | .null => "null".toList
  | .bool value => if value then "true".toList else "false".toList
  | .int value => (toString value).toList
  | .float value => (value.text numberNames).toList
  | .text value => writeText value
  | .list items =>
    match items with
    | [] => ['[', ']']
    | first :: rest =>
      '[' :: lineBreak (level + 1) ++ write (level + 1) first ++
        writeItems (level + 1) rest ++ lineBreak level ++ [']']
  | .object entries =>
    match entries with
    | [] => ['{', '}']
    | (key, value) :: rest =>
      '{' :: lineBreak (level + 1) ++ writeText key ++ [':', ' '] ++ write (level + 1) value ++
        writeEntries (level + 1) rest ++ lineBreak level ++ ['}']

def writeItems (level : Nat) : List Value → List Char
  | [] => []
  | item :: rest => ',' :: lineBreak level ++ write level item ++ writeItems level rest

def writeEntries (level : Nat) : List (String × Value) → List Char
  | [] => []
  | (key, value) :: rest =>
    ',' :: lineBreak level ++ writeText key ++ [':', ' '] ++ write level value ++
      writeEntries level rest

end

def document (value : Value) : String := String.ofList (write 0 value)

end SqlScaffold.Json
