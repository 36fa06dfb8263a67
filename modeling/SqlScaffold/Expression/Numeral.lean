import SqlScaffold.Expression.Fault

/-!
Numbers as they are written in expressions: whole numbers in four bases, fractions, exponents and
imaginary numbers. Single underscores may stand between digits.
-/

namespace SqlScaffold.Expression

open Text

/-- Every character outside the first 128 may belong to a name until the name is checked. -/
def startsName (c : Char) : Bool := c.isAlpha || c == '_' || decide (128 ≤ c.toNat)

def continuesName (c : Char) : Bool := startsName c || c.isDigit

def wordsAfterNumber : List String := ["and", "else", "for", "or", "not"]

def shortWordsAfterNumber : List String := ["if", "in", "is"]

def isAfterNumber (chars : List Char) : Bool :=
  (shortWordsAfterNumber.any fun word => word.toList.isPrefixOf chars) ||
    wordsAfterNumber.any fun word =>
      word.toList.isPrefixOf chars &&
        !((chars.drop word.length).head?.map continuesName).getD false

def endNumber (kind : NumberKind) (chars : List Char) : Except Fault (List Char) :=
  match chars with
  | [] => .ok []
  | c :: _ =>
    if c.toNat < 128 && continuesName c && !isAfterNumber chars then .error (.badNumber kind)
    else .ok chars

def skipDigits : List Char → Except Fault (List Char)
  | [] => .ok []
  | c :: rest =>
    if c.isDigit then skipDigits rest
    else if c = '_' then
      match rest with
      | next :: later =>
        if next.isDigit then skipDigits (next :: later) else .error (.badNumber .decimal)
      | [] => .error (.badNumber .decimal)
    else .ok (c :: rest)

/-- What follows the digits of a base other than ten. `separable` holds where an underscore may
stand, and `due` where a digit has to. -/
def skipBased (kind : NumberKind) (isDigit : Char → Bool) (separable due : Bool) :
    List Char → Except Fault (List Char)
  | [] => if due then .error (.badNumber kind) else .ok []
  | c :: rest =>
    if isDigit c then skipBased kind isDigit true false rest
    else if c = '_' && separable then skipBased kind isDigit false true rest
    else if c.isDigit then .error (.badDigit c kind)
    else if due then .error (.badNumber kind)
    else endNumber kind (c :: rest)

def baseOf? (mark : Char) : Option (NumberKind × (Char → Bool)) :=
  if mark = 'x' ∨ mark = 'X' then some (.hexadecimal, fun c => (hexValue? c).isSome)
  else if mark = 'o' ∨ mark = 'O' then some (.octal, fun c => decide ('0' ≤ c) && decide (c ≤ '7'))
  else if mark = 'b' ∨ mark = 'B' then some (.binary, fun c => c == '0' || c == '1')
  else none

def isImaginaryMark (c : Char) : Bool := c == 'j' || c == 'J'

def isExponentMark (c : Char) : Bool := c == 'e' || c == 'E'

def skipImaginary (chars : List Char) : Except Fault (List Char) :=
  match chars with
  | c :: rest => if isImaginaryMark c then endNumber .imaginary rest else endNumber .decimal chars
  | [] => .ok []

def skipExponent (chars : List Char) : Except Fault (List Char) :=
  match chars with
  | mark :: sign :: rest =>
    if !isExponentMark mark then skipImaginary chars
    else if sign = '+' ∨ sign = '-' then
      if (rest.head?.map Char.isDigit).getD false then skipDigits rest >>= skipImaginary
      else .error (.badNumber .decimal)
    else if sign.isDigit then skipDigits (sign :: rest) >>= skipImaginary
    else endNumber .decimal chars
  | _ => skipImaginary chars

def skipFraction (chars : List Char) : Except Fault (List Char) :=
  if (chars.head?.map Char.isDigit).getD false then skipDigits chars >>= skipExponent
  else skipExponent chars

def skipDecimal (chars : List Char) : Except Fault (List Char) := do
  let rest ← skipDigits chars
  match rest with
  | '.' :: after => skipFraction after
  | _ =>
    let inexact := (rest.head?.map fun c => isExponentMark c || isImaginaryMark c).getD false
    let digits := (chars.take (chars.length - rest.length)).filter Char.isDigit
    if inexact then skipExponent rest
    else if digits.head? == some '0' && digits.any (· != '0') then .error .leadingZeros
    else endNumber .decimal rest

def skipNumber (chars : List Char) : Except Fault (List Char) :=
  match chars with
  | '.' :: rest => skipFraction rest
  | '0' :: mark :: rest =>
    match baseOf? mark with
    | some (kind, isDigit) => skipBased kind isDigit true true rest
    | none => skipDecimal chars
  | _ => skipDecimal chars

inductive Numeral where
  | whole (value : Nat)
  | fraction
  | imaginary
  deriving DecidableEq, Repr

def valueIn (base : Nat) (digits : List Char) : Nat :=
  digits.foldl (fun value digit => value * base + (hexValue? digit).getD 0) 0

def Numeral.read (text : String) : Except Fault Numeral :=
  let digits := text.toList.filter (· != '_')
  match digits with
  | '0' :: mark :: rest =>
    match baseOf? mark with
    | some (kind, _) =>
      let base := match kind with
        | .hexadecimal => 16
        | .octal => 8
        | _ => 2
      .ok (.whole (valueIn base rest))
    | none => decimal digits
  | _ => decimal digits
where
  decimal (digits : List Char) : Except Fault Numeral :=
    if digits.any isImaginaryMark then .ok .imaginary
    else if !digits.all Char.isDigit then .ok .fraction
    else if digits.all (· == '0') then .ok (.whole 0)
    else
      match Number.readDigits digits with
      | .ok value => .ok (.whole value)
      | .error _ => .error (.longNumber digits.length)

end SqlScaffold.Expression
