import SqlScaffold.Text.CaseTable

/-!
Lower and upper forms of texts. Both map each character by the case data; a capital sigma that
ends a word has a lower form of its own, so the lower form of a text looks at the neighbours.
-/

namespace SqlScaffold.Text

def CaseRow.covers (row : CaseRow) (code : Nat) : Bool :=
  decide (row.first ≤ code) && decide (code ≤ row.last) && (code - row.first) % row.step == 0

def CaseRow.apply (row : CaseRow) (code : Nat) : Char := Char.ofNat ((code : Int) + row.shift).toNat

def mapByRows (rows : List CaseRow) (c : Char) : Char :=
  match rows.find? (·.covers c.toNat) with
  | some row => row.apply c.toNat
  | none => c

def lowerChar (c : Char) : List Char :=
  if c = 'İ' then ['i', Char.ofNat 0x307] else [mapByRows lowerRows c]

def upperChar (c : Char) : List Char :=
  match longUpperForms.lookup c.toNat with
  | some codes => codes.map Char.ofNat
  | none => [mapByRows upperRows c]

def isUpper (c : Char) : Bool :=
  (lowerChar c != [c] && !titleCaseRanges.contains c) || fixedUpperRanges.contains c

def meetsCased (chars : List Char) : Bool :=
  match chars.dropWhile caseIgnorableRanges.contains with
  | [] => false
  | c :: _ => casedRanges.contains c

/-- A capital sigma ends a word if a letter precedes it and none follows. -/
def endsWord (before after : List Char) : Bool := meetsCased before && !meetsCased after

/-- Lower form of the characters after `before`, which is given nearest first. -/
def lowerAfter (before : List Char) : List Char → List Char
  | [] => []
  | c :: rest =>
    (if c = 'Σ' then [if endsWord before rest then 'ς' else 'σ'] else lowerChar c) ++
      lowerAfter (c :: before) rest

def lower (text : String) : String := String.ofList (lowerAfter [] text.toList)

def upper (text : String) : String := String.ofList (text.toList.flatMap upperChar)

end SqlScaffold.Text
