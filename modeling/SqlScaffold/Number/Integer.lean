import SqlScaffold.Text.DigitTable

/-!
Whole numbers written in decimal digits. Only so many digits are read that reading stays quick.
-/

namespace SqlScaffold.Number

open Text

inductive IntegerError where
  | noDigits
  | tooManyDigits (count : Nat)
  deriving DecidableEq, Repr

def digitLimit : Nat := 4300

def IntegerError.message : IntegerError → String
  | noDigits => "invalid literal for int() with base 10: ''"
  | tooManyDigits count =>
    "Exceeds the limit (" ++ toString digitLimit ++ " digits) for integer string conversion: " ++
      "value has " ++ toString count ++
      " digits; use sys.set_int_max_str_digits() to increase the limit"

def valueOfDigits (digits : List Char) : Nat :=
  digits.foldl (fun value digit => value * 10 + (decimalValue? digit).getD 0) 0

def readDigits (digits : List Char) : Except IntegerError Nat :=
  if digits.isEmpty then .error .noDigits
  else if digitLimit < digits.length then .error (.tooManyDigits digits.length)
  else .ok (valueOfDigits digits)

end SqlScaffold.Number
