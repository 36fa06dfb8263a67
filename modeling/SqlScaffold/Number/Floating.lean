import SqlScaffold.Number.Decimal

/-!
Floating point numbers of 53 binary digits. A number is kept as the shortest decimal that names
it: of all decimals nearest to the same binary number, one with the fewest digits, and of those
the closest. Reading a decimal finds its binary number first, so two spellings of one number are
kept alike.
-/

namespace SqlScaffold.Number

structure Binary where
  mantissa : Nat
  exponent : Int
  deriving DecidableEq, Repr

def mantissaBound : Nat := Nat.pow 2 53

def divideToEven (dividend divisor : Nat) : Nat :=
  let quotient := dividend / divisor
  let twice := 2 * (dividend % divisor)
  if twice < divisor then quotient
  else if divisor < twice then quotient + 1
  else quotient + quotient % 2

def inUnits (numerator denominator : Nat) (exponent : Int) : Nat × Nat :=
  (numerator * Nat.pow 2 (-exponent).toNat, denominator * Nat.pow 2 exponent.toNat)

def unitExponent (numerator denominator : Nat) : Int :=
  let estimate : Int := max ((numerator.log2 : Int) - denominator.log2 - 53) (-1074)
  let scaled := inUnits numerator denominator estimate
  if scaled.1 / scaled.2 < mantissaBound then estimate else estimate + 1

def nearestToFraction (numerator denominator : Nat) : Option Binary :=
  let exponent := unitExponent numerator denominator
  let scaled := inUnits numerator denominator exponent
  let mantissa := divideToEven scaled.1 scaled.2
  let rounded : Binary :=
    if mantissa < mantissaBound then ⟨mantissa, exponent⟩ else ⟨mantissa / 2, exponent + 1⟩
  if 971 < rounded.exponent then none else some rounded

def nearest (digits : Nat) (exponent : Int) : Option Binary :=
  if digits = 0 || exponent < -(400 + (digits.log2 : Int)) then some ⟨0, -1074⟩
  else if 400 < exponent then none
  else nearestToFraction (digits * Nat.pow 10 exponent.toNat) (Nat.pow 10 (-exponent).toNat)

def Binary.exact (number : Binary) : Nat × Int :=
  if 0 ≤ number.exponent then (number.mantissa * Nat.pow 2 number.exponent.toNat, 0)
  else (number.mantissa * Nat.pow 5 (-number.exponent).toNat, number.exponent)

/-- Of the two decimals around a binary number on the grid of `places` digits, the closest one
that reads back, with an even last digit where both are equally close. -/
def onGrid (number : Binary) (places : Nat) : Option (Nat × Int) :=
  let exact := number.exact
  let dropped := (digitsOf exact.1).length - places
  let grid := Nat.pow 10 dropped
  let exponent := exact.2 + dropped
  let below := exact.1 / grid
  let twice := 2 * (exact.1 % grid)
  let upFirst := decide (grid < twice) || (decide (twice = grid) && below % 2 == 1)
  let order := if upFirst then [below + 1, below] else [below, below + 1]
  (order.find? fun digits => nearest digits exponent == some number).map fun digits =>
    (digits, exponent)

def Binary.shortest? (number : Binary) : Option (Nat × Int) :=
  (List.range 17).findSome? fun places => onGrid number (places + 1)

inductive Floating where
  | undefined
  | infinite (negative : Bool)
  | finite (value : Decimal)
  deriving DecidableEq, Repr

def Floating.ofDecimal (number : Decimal) : Floating :=
  match nearest number.digits number.exponent with
  | none => .infinite number.negative
  | some binary =>
    if binary.mantissa = 0 then .finite ⟨number.negative, 0, 0⟩
    else
      match binary.shortest? with
      | some shortest => .finite (Decimal.normal ⟨number.negative, shortest.1, shortest.2⟩)
      | none => .finite number

def Decimal.exact (number : Decimal) : Int × Int :=
  let exact := ((nearest number.digits number.exponent).map Binary.exact).getD (0, 0)
  (if number.negative then -(exact.1 : Int) else exact.1, exact.2)

/-- The sum of two numbers, rounded; a sum of zero is only negative if both numbers are. -/
def Floating.add : Floating → Floating → Floating
  | .undefined, _ | _, .undefined => .undefined
  | .infinite left, .infinite right => if left = right then .infinite left else .undefined
  | .infinite left, .finite _ => .infinite left
  | .finite _, .infinite right => .infinite right
  | .finite left, .finite right =>
    let (leftDigits, leftExponent) := left.exact
    let (rightDigits, rightExponent) := right.exact
    let exponent := min leftExponent rightExponent
    let digits := leftDigits * Nat.pow 10 (leftExponent - exponent).toNat +
      rightDigits * Nat.pow 10 (rightExponent - exponent).toNat
    if digits = 0 then .finite ⟨left.negative && right.negative, 0, 0⟩
    else Floating.ofDecimal ⟨decide (digits < 0), digits.natAbs, exponent⟩

def Floating.isZero : Floating → Bool
  | .finite value => value.digits == 0
  | _ => false

structure SpecialNames where
  undefined : String
  infinite : String

def Floating.text (names : SpecialNames) : Floating → String
  | .undefined => names.undefined
  | .infinite negative => if negative then "-" ++ names.infinite else names.infinite
  | .finite value => String.ofList value.chars

def Floating.equalsInt (number : Floating) (whole : Int) : Bool :=
  match number with
  | .finite value =>
    match nearest value.digits value.exponent with
    | none => false
    | some binary =>
      let exact := binary.exact
      let magnitude := exact.1 * Nat.pow 10 exact.2.toNat
      let scale := Nat.pow 10 (-exact.2).toNat
      whole * scale == (if value.negative then -(magnitude : Int) else magnitude)
  | _ => false

end SqlScaffold.Number
