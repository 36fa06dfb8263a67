import SqlScaffold.Text.CharacterNameTable
import SqlScaffold.Text.Quoted

/-!
Names of characters. Most are listed; those of ideographs and syllables follow from the number or
the parts of their character.
-/

namespace SqlScaffold.Text

structure NameSearch where
  last : List Char := []
  shared : Nat := 0
  added : List Char := []
  found : Bool := false

def NameSearch.current (search : NameSearch) : List Char :=
  search.last.take search.shared ++ search.added.reverse

def NameSearch.step (name : List Char) (search : NameSearch) (c : Char) : NameSearch :=
  if !c.isLower then { search with added := c :: search.added }
  else
    let more := if c = 'z' then 25 else c.toNat - 'a'.toNat
    if search.added.isEmpty then { search with shared := search.shared + more }
    else
      let current := search.current
      ⟨current, more, [], search.found || current == name⟩

def isListedName (name : List Char) : Bool :=
  let search := (characterNameData.flatMap String.toList).foldl (NameSearch.step name) {}
  search.found || search.current == name

def capitalNumber? (digits : List Char) : Option Nat :=
  if digits.all (fun c => (hexValue? c).isSome && !c.isLower) && [4, 5].contains digits.length then
    some (digits.foldl (fun number c => number * 16 + (hexValue? c).getD 0) 0)
  else none

def numberedNames : List (String × Ranges) :=
  [("CJK COMPATIBILITY IDEOGRAPH-", [(0xF900, 0xFA6D), (0xFA70, 0xFAD9), (0x2F800, 0x2FA1D)]),
    ("KHITAN SMALL SCRIPT CHARACTER-", [(0x18B00, 0x18CD5)]),
    ("NUSHU CHARACTER-", [(0x1B170, 0x1B2FB)])]

def unifiedIdeographs : String × Ranges :=
  ("CJK UNIFIED IDEOGRAPH-",
    [(0x3400, 0x4DBF), (0x4E00, 0x9FFF), (0x20000, 0x2A6DF), (0x2A700, 0x2B738),
      (0x2B740, 0x2B81D), (0x2B820, 0x2CEA1), (0x2CEB0, 0x2EBE0), (0x30000, 0x3134A)])

def isNumberedName (name : List Char) (row : String × Ranges) : Bool :=
  row.1.toList.isPrefixOf name &&
    (((capitalNumber? (name.drop row.1.length)).map fun number =>
      row.2.any fun (first, last) => decide (first ≤ number) && decide (number ≤ last)).getD false)

def isBriefName (name : List Char) (row : String × Ranges) : Bool :=
  isNumberedName name row && (name.drop row.1.length).head? != some '0'

def leadSounds : List String :=
  ["G", "GG", "N", "D", "DD", "R", "M", "B", "BB", "S", "SS", "", "J", "JJ", "C", "K", "T", "P",
    "H"]

def vowelSounds : List String :=
  ["A", "AE", "YA", "YAE", "EO", "E", "YEO", "YE", "O", "WA", "WAE", "OE", "YO", "U", "WEO", "WE",
    "WI", "YU", "EU", "YI", "I"]

def tailSounds : List String :=
  ["", "G", "GG", "GS", "N", "NJ", "NH", "D", "L", "LG", "LM", "LB", "LS", "LT", "LP", "LH", "M",
    "B", "BS", "S", "SS", "NG", "J", "C", "K", "T", "P", "H"]

def dropSound? (sounds : List String) (chars : List Char) : Option (List Char) :=
  let fitting := sounds.filter fun sound => sound.toList.isPrefixOf chars
  if fitting.isEmpty then none
  else some (chars.drop (fitting.foldl (fun length sound => max length sound.length) 0))

def syllableStart : String := "HANGUL SYLLABLE "

def isSyllableName (name : List Char) : Bool :=
  syllableStart.toList.isPrefixOf name &&
    ((dropSound? leadSounds (name.drop syllableStart.length) >>= dropSound? vowelSounds >>=
      dropSound? tailSounds) == some [])

def isCharacterName (name : String) : Bool :=
  let chars := name.toList
  let capital := chars.map Char.toUpper
  isSyllableName chars || isNumberedName chars unifiedIdeographs ||
    numberedNames.any (isBriefName capital) || isListedName capital

end SqlScaffold.Text
