import SqlScaffold.Number.Integer
import SqlScaffold.Text.Blank
import SqlScaffold.Text.Lines
import SqlScaffold.Text.Quoted

/-!
Spellings of numbers in texts. Digits may be those of any script, blanks around a number do not
count, and single underscores may stand between digits.
-/

namespace SqlScaffold.Number

open Text

def plainDigits (chars : List Char) : List Char :=
  chars.map fun c => ((decimalValue? c).map fun value => Char.ofNat (48 + value)).getD c

def plainSpelling (text : String) : List Char := plainDigits (trim text).toList

/-- Drops underscores between digits. `afterDigit` says what the last character was. -/
def dropUnderscores? (afterDigit : Bool) : List Char → Option (List Char)
  | [] => some []
  | '_' :: c :: rest =>
    if afterDigit && c.isDigit then (dropUnderscores? true rest).map (c :: ·) else none
  | c :: rest => if c = '_' then none else (dropUnderscores? c.isDigit rest).map (c :: ·)

def dropSign : List Char → List Char
  | [] => []
  | c :: rest => if c = '+' || c = '-' then rest else c :: rest

def integerDigits? (text : String) : Option (List Char) :=
  match dropUnderscores? false (dropSign (plainSpelling text)) with
  | some digits => if !digits.isEmpty && digits.all Char.isDigit then some digits else none
  | none => none

def dropExponent (chars : List Char) : List Char :=
  match chars with
  | c :: rest =>
    let digits := dropSign rest
    if c.toLower = 'e' && (digits.head?.map Char.isDigit).getD false then
      digits.dropWhile Char.isDigit
    else chars
  | [] => []

def dropDigits? (chars : List Char) : Option (List Char) :=
  let behind := chars.dropWhile Char.isDigit
  let whole := behind.length < chars.length
  match behind with
  | '.' :: rest =>
    let fraction := rest.dropWhile Char.isDigit
    if whole || fraction.length < rest.length then some (dropExponent fraction) else none
  | _ => if whole then some (dropExponent behind) else none

def dropWord? (word : String) (chars : List Char) : Option (List Char) :=
  let count := word.length
  if (chars.take count).map Char.toLower = word.toList then some (chars.drop count) else none

def dropNamed? (chars : List Char) : Option (List Char) :=
  (dropWord? "infinity" chars).or ((dropWord? "inf" chars).or (dropWord? "nan" chars))

def dropFloat? (chars : List Char) : Option (List Char) :=
  let unsigned := dropSign chars
  (dropDigits? unsigned).or (dropNamed? unsigned)

def isFloatSpelling (text : String) : Bool :=
  (dropUnderscores? false (plainSpelling text)).bind dropFloat? == some []

def dropUnit? : List Char → Option (List Char)
  | [] => none
  | c :: rest => if c.toLower = 'j' then some rest else none

def dropComplex? (chars : List Char) : Option (List Char) :=
  match dropFloat? chars with
  | none => dropUnit? (dropSign chars)
  | some rest =>
    if dropSign rest = rest then (dropUnit? rest).or (some rest)
    else dropUnit? ((dropFloat? rest).getD (dropSign rest))

def isComplexSpelling (text : String) : Bool :=
  match dropUnderscores? false (plainSpelling text) with
  | some ('(' :: inside) =>
    match (dropComplex? (inside.dropWhile isBlank)).map fun rest => rest.dropWhile isBlank with
    | some rest => rest == [')']
    | none => false
  | some chars => dropComplex? chars == some []
  | none => false

/-- A decimal number takes underscores anywhere, and digits behind the name of no number. -/
def isDecimalSpelling (text : String) : Bool :=
  let unsigned := dropSign ((plainSpelling text).filter (· != '_'))
  let endsNamed (word : String) : Bool := dropWord? word unsigned == some []
  let isQuiet (word : String) : Bool :=
    ((dropWord? word unsigned).map fun rest => rest.all Char.isDigit).getD false
  dropDigits? unsigned == some [] || endsNamed "inf" || endsNamed "infinity" || isQuiet "nan" ||
    isQuiet "snan"

def identifierDigits (text : String) : List Char :=
  let unlabeled := ["urn:", "uuid:"].foldl (fun text label => removeAll label text) text
  let isBrace (c : Char) : Bool := c == '\x7b' || c == '\x7d'
  let inner := ((unlabeled.toList.dropWhile isBrace).reverse.dropWhile isBrace).reverse
  inner.filter (· != '-')
where
  removeAll (label text : String) : String := joinWith "" (text.splitOn label)

end SqlScaffold.Number
