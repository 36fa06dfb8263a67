import SqlScaffold.Text.Lines

/-!
Decimal numbers and their notation. Small and large ones are written with an exponent, all others
positionally, and a number without a fraction keeps one zero behind its point.
-/

namespace SqlScaffold.Number

/-- The number `digits * 10 ^ exponent`, negated if `negative`; zero has a sign too. -/
structure Decimal where
  negative : Bool
  digits : Nat
  exponent : Int
  deriving DecidableEq, Repr

def digitsOf (value : Nat) : List Char := Nat.toDigits 10 value

def stripZeros : Nat → Nat → Int → Nat × Int
  | 0, digits, exponent => (digits, exponent)
  | bound + 1, digits, exponent =>
    if digits = 0 then (0, 0)
    else if digits % 10 = 0 then stripZeros bound (digits / 10) (exponent + 1)
    else (digits, exponent)

def Decimal.normal (number : Decimal) : Decimal :=
  let stripped := stripZeros (number.digits + 1).log2.succ number.digits number.exponent
  ⟨number.negative, stripped.1, stripped.2⟩

def positionalFrom : Int := -3

def positionalTo : Int := 16

def exponentText (exponent : Int) : List Char :=
  let digits := digitsOf exponent.natAbs
  'e' :: (if exponent < 0 then '-' else '+') ::
    (if digits.length < 2 then '0' :: digits else digits)

/-- Writes digits whose point stands `point` places after the first one. -/
def digitsText (digits : List Char) (point : Int) : List Char :=
  if point < positionalFrom || positionalTo < point then
    match digits with
    | [] => []
    | [digit] => digit :: exponentText (point - 1)
    | digit :: rest => digit :: '.' :: rest ++ exponentText (point - 1)
  else if point ≤ 0 then '0' :: '.' :: List.replicate (-point).toNat '0' ++ digits
  else if point.toNat < digits.length then
    digits.take point.toNat ++ '.' :: digits.drop point.toNat
  else digits ++ List.replicate (point.toNat - digits.length) '0' ++ ['.', '0']

def Decimal.chars (number : Decimal) : List Char :=
  let digits := digitsOf number.digits
  let magnitude :=
    if number.digits = 0 then ['0', '.', '0']
    else digitsText digits (digits.length + number.exponent)
  if number.negative then '-' :: magnitude else magnitude

end SqlScaffold.Number
