import SqlScaffold.Text.Lines
import SqlScaffold.Text.NormalTable
import SqlScaffold.Text.Quoted

/-!
The compatible normal form of a text: every character is taken apart, marks are put in order of
their classes, and pairs of characters are put together again where a single one stands for them.
-/

namespace SqlScaffold.Text

def hexNumber (digits : List Char) : Nat :=
  digits.foldl (fun number digit => number * 16 + (hexValue? digit).getD 0) 0

structure CodeRow where
  first : Nat
  last : Nat
  codes : List Nat

def rowOf (entry : List Char) : CodeRow :=
  let (key, codes) := (entry.takeWhile (· != ':'), (entry.dropWhile (· != ':')).drop 1)
  let bounds := (splitChars '-' key).map hexNumber
  let first := bounds.head?.getD 0
  ⟨first, bounds.getLast?.getD first, (splitChars '+' codes).map hexNumber⟩

def rowsOf (data : List String) : List CodeRow :=
  data.flatMap fun line => (splitChars ' ' line.toList).map rowOf

def compatibleRows : List CodeRow := rowsOf compatibleData

def markRows : List CodeRow := rowsOf markData

def pairOf (entry : List Char) : (Nat × Nat) × Nat :=
  let numbers := (splitChars '+' (entry.takeWhile (· != ':'))).map hexNumber
  ((numbers.head?.getD 0, numbers.getLast?.getD 0),
    hexNumber ((entry.dropWhile (· != ':')).drop 1))

def compositePairs : List ((Nat × Nat) × Nat) :=
  compositeData.flatMap fun line => (splitChars ' ' line.toList).map pairOf

def rowFor? (rows : List CodeRow) (code : Nat) : Option CodeRow :=
  rows.find? fun row => decide (row.first ≤ code) && decide (code ≤ row.last)

def syllableBase : Nat := 0xAC00
def leadBase : Nat := 0x1100
def vowelBase : Nat := 0x1161
def tailBase : Nat := 0x11A7
def leadCount : Nat := 19
def vowelCount : Nat := 21
def tailCount : Nat := 28

def isSyllable (code : Nat) : Bool :=
  decide (syllableBase ≤ code) &&
    decide (code < syllableBase + leadCount * vowelCount * tailCount)

def syllableParts (code : Nat) : List Nat :=
  let index := code - syllableBase
  let tail := index % tailCount
  [leadBase + index / (vowelCount * tailCount),
    vowelBase + index / tailCount % vowelCount] ++
    if tail = 0 then [] else [tailBase + tail]

def decompose (c : Char) : List Char :=
  let code := c.toNat
  if isSyllable code then (syllableParts code).map Char.ofNat
  else
    match rowFor? compatibleRows code with
    | none => [c]
    | some row =>
      match row.codes with
      | [single] => [Char.ofNat (single + (code - row.first))]
      | codes => codes.map Char.ofNat

def markClass (c : Char) : Nat :=
  match rowFor? markRows c.toNat with
  | some row => row.codes.head?.getD 0
  | none => 0

def insertMark (c : Char) : List Char → List Char
  | [] => [c]
  | next :: rest =>
    if 0 < markClass next ∧ markClass next < markClass c then next :: insertMark c rest
    else c :: next :: rest

def composite? (left right : Char) : Option Char :=
  let first := left.toNat
  let second := right.toNat
  if leadBase ≤ first ∧ first < leadBase + leadCount ∧
      vowelBase ≤ second ∧ second < vowelBase + vowelCount then
    some (Char.ofNat (syllableBase +
      ((first - leadBase) * vowelCount + (second - vowelBase)) * tailCount))
  else if isSyllable first ∧ (first - syllableBase) % tailCount = 0 ∧
      tailBase < second ∧ second < tailBase + tailCount then
    some (Char.ofNat (first + (second - tailBase)))
  else (compositePairs.lookup (first, second)).map Char.ofNat

/-- Puts characters together. `starter` is the last character that is no mark, and `held` are the
marks behind it that stay, last first. -/
def composeFrom (starter : Option Char) (held : List Char) : List Char → List Char
  | [] => starter.toList ++ held.reverse
  | c :: rest =>
    let level := markClass c
    let free := held.all fun mark => decide (markClass mark < level)
    match starter.bind fun first => if free then composite? first c else none with
    | some joined => composeFrom (some joined) held rest
    | none =>
      if level = 0 then starter.toList ++ held.reverse ++ composeFrom (some c) [] rest
      else composeFrom starter (c :: held) rest

def normalForm (text : String) : String :=
  if text.toList.all fun c => decide (c.toNat < 128) then text
  else
    String.ofList (composeFrom none [] ((text.toList.flatMap decompose).foldr insertMark []))

end SqlScaffold.Text
