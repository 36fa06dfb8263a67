import SqlScaffold.Text.PrintableTable

/-!
Quoted texts. A source literal stands between double quotes and escapes only the quote and the
backslash. A quoted value in a message is meant for reading: it prefers single quotes and shows
every character that cannot be printed by its code.
-/

namespace SqlScaffold.Text

def escapeLiteral : List Char → List Char
  | [] => []
  | c :: rest =>
    if c = '\\' || c = '"' then '\\' :: c :: escapeLiteral rest else c :: escapeLiteral rest

def sourceLiteral (text : String) : String :=
  String.ofList ('"' :: escapeLiteral text.toList ++ ['"'])

def isPrintable (c : Char) : Bool := !unprintableRanges.contains c

def hexDigit (value : Nat) : Char := Char.ofNat ((if value < 10 then 48 else 87) + value)

def hexValue? (c : Char) : Option Nat :=
  if c.isDigit then some (c.toNat - 48)
  else if 'a' ≤ c ∧ c ≤ 'f' then some (c.toNat - 87)
  else if 'A' ≤ c ∧ c ≤ 'F' then some (c.toNat - 55)
  else none

def hexDigits : Nat → Nat → List Char
  | 0, _ => []
  | width + 1, value => hexDigit (value / Nat.pow 16 width % 16) :: hexDigits width value

def quotedChar (quote c : Char) : List Char :=
  if c = quote || c = '\\' then ['\\', c]
  else if c = '\n' then ['\\', 'n']
  else if c = '\r' then ['\\', 'r']
  else if c = '\t' then ['\\', 't']
  else if isPrintable c then [c]
  else if c.toNat < 0x100 then '\\' :: 'x' :: hexDigits 2 c.toNat
  else if c.toNat < 0x10000 then '\\' :: 'u' :: hexDigits 4 c.toNat
  else '\\' :: 'U' :: hexDigits 8 c.toNat

/-- Double quotes are used for a text that holds a single quote and no double one. -/
def quoteFor (chars : List Char) : Char :=
  if chars.contains '\'' && !chars.contains '"' then '"' else '\''

def quoted (text : String) : String :=
  let quote := quoteFor text.toList
  String.ofList (quote :: text.toList.flatMap (quotedChar quote) ++ [quote])

def replacementChar : Char := Char.ofNat 0xFFFD

def clipChars : Nat → List Char → List Char
  | _, [] => []
  | room, c :: rest =>
    if c.utf8Size ≤ room then c :: clipChars (room - c.utf8Size) rest
    else if room = 0 then []
    else [replacementChar]

def clipped (room : Nat) (text : String) : String := String.ofList (clipChars room text.toList)

end SqlScaffold.Text
