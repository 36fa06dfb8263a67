import SqlScaffold.Value

/-!
Amounts: whole numbers until a number with a fraction is added, and rounded sums from then on.
-/

namespace SqlScaffold

open Number

inductive Amount where
  | whole (number : Int)
  | rounded (number : Floating)
  deriving DecidableEq, Repr

def Amount.value : Amount → Value
  | whole number => .int number
  | rounded number => .float number

inductive AmountError where
  | notNumber (held given : String)
  | tooLarge
  deriving DecidableEq, Repr

def AmountError.message : AmountError → String
  | notNumber held given =>
    "unsupported operand type(s) for +=: '" ++ held ++ "' and '" ++ given ++ "'"
  | tooLarge => "int too large to convert to float"

def roundWhole (number : Int) : Except AmountError Floating :=
  match Floating.ofDecimal ⟨decide (number < 0), number.natAbs, 0⟩ with
  | .infinite _ => .error .tooLarge
  | rounded => .ok rounded

def Amount.add (amount : Amount) (given : Value) : Except AmountError Amount :=
  match amount, given, given.asInt? with
  | .whole left, _, some right => .ok (.whole (left + right))
  | .rounded left, _, some right => (roundWhole right).map fun right => .rounded (left.add right)
  | .whole left, .float right, none => (roundWhole left).map fun left => .rounded (left.add right)
  | .rounded left, .float right, none => .ok (.rounded (left.add right))
  | amount, other, none => .error (.notNumber amount.value.kind other.kind)

theorem Amount.add_int (left right : Int) :
    (Amount.whole left).add (.int right) = .ok (.whole (left + right)) := rfl

end SqlScaffold
