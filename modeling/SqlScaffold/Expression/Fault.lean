import SqlScaffold.Number.Integer
import SqlScaffold.Text.Case
import SqlScaffold.Text.Quoted

/-!
What is wrong with a text that is no expression, and how a message says it: a token that cannot be
read, an escape or an embedded expression of a quotation, or tokens that do not fit together.
-/

namespace SqlScaffold.Expression

open Text

inductive NumberKind where
  | binary
  | octal
  | decimal
  | hexadecimal
  | imaginary
  deriving DecidableEq, Repr

def NumberKind.text : NumberKind → String
  | binary => "binary"
  | octal => "octal"
  | decimal => "decimal"
  | hexadecimal => "hexadecimal"
  | imaginary => "imaginary"

inductive EscapeProblem where
  | short (form : String)
  | outside
  | namelessForm
  | unknownName
  deriving DecidableEq, Repr

def EscapeProblem.text : EscapeProblem → String
  | short form => "truncated \\" ++ form ++ " escape"
  | outside => "illegal Unicode character"
  | namelessForm => "malformed \\N character escape"
  | unknownName => "unknown Unicode character name"

inductive PieceFault where
  | loneBrace
  | nestedTooDeeply
  | backslash
  | remark
  | tooManyBrackets
  | unmatched (bracket : Char)
  | crossed (opening closing : Char)
  | openQuotation
  | noBrace
  | missing (sign : Char)
  | empty
  | badConversion
  deriving DecidableEq, Repr

def quotedSign (c : Char) : String := String.ofList ['\'', c, '\'']

def bracketMismatch (opening closing : Char) : String :=
  "closing parenthesis " ++ quotedSign closing ++ " does not match opening parenthesis " ++
    quotedSign opening

def PieceFault.message : PieceFault → String
  | loneBrace => "f-string: single '\x7d' is not allowed"
  | nestedTooDeeply => "f-string: expressions nested too deeply"
  | backslash => "f-string expression part cannot include a backslash"
  | remark => "f-string expression part cannot include '#'"
  | tooManyBrackets => "f-string: too many nested parenthesis"
  | unmatched bracket => "f-string: unmatched " ++ quotedSign bracket
  | crossed opening closing => "f-string: " ++ bracketMismatch opening closing
  | openQuotation => "f-string: unterminated string"
  | noBrace => "f-string: expecting '\x7d'"
  | missing sign => "f-string: expression required before " ++ quotedSign sign
  | empty => "f-string: empty expression not allowed"
  | badConversion => "f-string: invalid conversion character: expected 's', 'r', or 'a'"

inductive Mistake where
  | missingComma
  | missingElse
  | equalsSign
  | spreadBehindNames
  | bareLoop
  | placeBehindNames
  | placeBehindSpread
  | assignedArgument
  | spreadInLoop
  | bareLoopTarget
  | mappingInLoop
  | missingDefault
  | defaultBefore
  | parametersInBrackets
  | slashFirst
  | slashTwice
  | slashBehindStar
  | slashBesideStar
  | nothingBehindStar
  | starDefault
  | starTwice
  | doubleStarDefault
  | behindDoubleStar
  | spreadHere
  | mappingHere
  | missingColon
  | spreadValue
  | missingValue
  deriving DecidableEq, Repr

def Mistake.message : Mistake → String
  | missingComma => "invalid syntax. Perhaps you forgot a comma?"
  | missingElse => "expected 'else' after 'if' expression"
  | equalsSign => "invalid syntax. Maybe you meant '==' or ':=' instead of '='?"
  | spreadBehindNames => "iterable argument unpacking follows keyword argument unpacking"
  | bareLoop => "Generator expression must be parenthesized"
  | placeBehindNames => "positional argument follows keyword argument"
  | placeBehindSpread => "positional argument follows keyword argument unpacking"
  | assignedArgument => "expression cannot contain assignment, perhaps you meant \"==\"?"
  | spreadInLoop => "iterable unpacking cannot be used in comprehension"
  | bareLoopTarget => "did you forget parentheses around the comprehension target?"
  | mappingInLoop => "dict unpacking cannot be used in dict comprehension"
  | missingDefault => "expected default value expression"
  | defaultBefore => "non-default argument follows default argument"
  | parametersInBrackets => "Lambda expression parameters cannot be parenthesized"
  | slashFirst => "at least one argument must precede /"
  | slashTwice => "/ may appear only once"
  | slashBehindStar => "/ must be ahead of *"
  | slashBesideStar => "expected comma between / and *"
  | nothingBehindStar => "named arguments must follow bare *"
  | starDefault => "var-positional argument cannot have default value"
  | starTwice => "* argument may appear only once"
  | doubleStarDefault => "var-keyword argument cannot have default value"
  | behindDoubleStar => "arguments cannot follow var-keyword argument"
  | spreadHere => "cannot use starred expression here"
  | mappingHere => "cannot use double starred expression here"
  | missingColon => "':' expected after dictionary key"
  | spreadValue => "cannot use a starred expression in a dictionary value"
  | missingValue => "expression expected after dictionary key and ':'"

inductive Fault where
  | neverClosed (opening : Char)
  | unmatched (closing : Char)
  | crossed (opening closing : Char) (line : Option Nat)
  | tooManyBrackets
  | openQuotation (line : Nat)
  | openBlock (line : Nat)
  | strange (c : Char)
  | badNumber (kind : NumberKind)
  | badDigit (digit : Char) (kind : NumberKind)
  | leadingZeros
  | longNumber (digits : Nat)
  | afterBackslash
  | suddenEnd
  | unevenLines
  | indented
  | unindented
  | foreignByte
  | mixedQuotations
  | badEscape (first last : Nat) (problem : EscapeProblem)
  | badByteEscape (place : Nat)
  | piece (fault : PieceFault)
  | assigned (kind : String)
  | assignedHere (kind : String)
  | bound (kind : String)
  | command (name : String)
  | mistake (mistake : Mistake)
  | unfitting
  | tooDeep
  | embedded (fault : Fault)
  deriving DecidableEq, Repr

def strangeMessage (c : Char) : String :=
  let width := if c.toNat < 0x10000 then 4 else if c.toNat < 0x100000 then 5 else 6
  let code := "U+" ++ upper (String.ofList (hexDigits width c.toNat))
  if isPrintable c then "invalid character " ++ quotedSign c ++ " (" ++ code ++ ")"
  else "invalid non-printable character " ++ code

def Fault.message : Fault → String
  | neverClosed opening => quotedSign opening ++ " was never closed"
  | unmatched closing => "unmatched " ++ quotedSign closing
  | crossed opening closing none => bracketMismatch opening closing
  | crossed opening closing (some line) =>
    bracketMismatch opening closing ++ " on line " ++ toString line
  | tooManyBrackets => "too many nested parentheses"
  | openQuotation line => "unterminated string literal (detected at line " ++ toString line ++ ")"
  | openBlock line =>
    "unterminated triple-quoted string literal (detected at line " ++ toString line ++ ")"
  | strange c => strangeMessage c
  | badNumber kind => "invalid " ++ kind.text ++ " literal"
  | badDigit digit kind => "invalid digit " ++ quotedSign digit ++ " in " ++ kind.text ++ " literal"
  | leadingZeros =>
    "leading zeros in decimal integer literals are not permitted; " ++
      "use an 0o prefix for octal integers"
  | longNumber digits =>
    (Number.IntegerError.tooManyDigits digits).message ++
      " - Consider hexadecimal for huge integer literals to avoid decimal conversion limits."
  | afterBackslash => "unexpected character after line continuation character"
  | suddenEnd => "unexpected EOF while parsing"
  | unevenLines => "unindent does not match any outer indentation level"
  | indented => "unexpected indent"
  | unindented => "unexpected unindent"
  | foreignByte => "bytes can only contain ASCII literal characters"
  | mixedQuotations => "cannot mix bytes and nonbytes literals"
  | badEscape first last problem =>
    "(unicode error) 'unicodeescape' codec can't decode bytes in position " ++ toString first ++
      "-" ++ toString last ++ ": " ++ problem.text
  | badByteEscape place => "(value error) invalid \\x escape at position " ++ toString place
  | piece fault => fault.message
  | assigned kind => "cannot assign to " ++ kind
  | assignedHere kind =>
    "cannot assign to " ++ kind ++ " here. Maybe you meant '==' instead of '='?"
  | bound kind => "cannot use assignment expressions with " ++ kind
  | command name =>
    "Missing parentheses in call to " ++ "'" ++ name ++ "'. Did you mean " ++ name ++ "(...)?"
  | mistake kind => kind.message
  | unfitting => "invalid syntax"
  | tooDeep => ""
  | embedded fault => "f-string: " ++ fault.message

def Fault.told (embedded : Bool) : Fault → Fault
  | tooDeep => tooDeep
  | fault => if embedded then .embedded fault else fault

end SqlScaffold.Expression
