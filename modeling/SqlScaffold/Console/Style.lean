import SqlScaffold.Console.ColorTable
import SqlScaffold.Number.Integer
import SqlScaffold.Text.Case
import SqlScaffold.Text.Lines
import SqlScaffold.Text.Quoted

/-!
Styles of console texts, written as words: effects that are set or ruled out, a color, a color
behind the text and a link. Two ways to write one style have the same normal form.
-/

namespace SqlScaffold.Console

open Number Text

inductive Effect where
  | bold
  | dim
  | italic
  | underline
  | blink
  | quickBlink
  | reverse
  | conceal
  | strike
  | doubleUnderline
  | frame
  | encircle
  | overline
  deriving DecidableEq, Repr

def Effect.all : List Effect :=
  [bold, dim, italic, underline, blink, quickBlink, reverse, conceal, strike, doubleUnderline,
    frame, encircle, overline]

def Effect.name : Effect → String
  | bold => "bold"
  | dim => "dim"
  | italic => "italic"
  | underline => "underline"
  | blink => "blink"
  | quickBlink => "blink2"
  | reverse => "reverse"
  | conceal => "conceal"
  | strike => "strike"
  | doubleUnderline => "underline2"
  | frame => "frame"
  | encircle => "encircle"
  | overline => "overline"

def Effect.short? : Effect → Option String
  | bold => some "b"
  | dim => some "d"
  | italic => some "i"
  | underline => some "u"
  | reverse => some "r"
  | conceal => some "c"
  | strike => some "s"
  | doubleUnderline => some "uu"
  | overline => some "o"
  | _ => none

def Effect.ofWord? (word : String) : Option Effect :=
  Effect.all.find? fun effect =>
    effect.name == word || effect.short? == some word

structure Style where
  effects : List (Effect × Bool) := []
  color : Option String := none
  background : Option String := none
  link : Option String := none
  deriving DecidableEq, Repr

inductive StyleError where
  | unknown
  | number (error : IntegerError)
  deriving DecidableEq, Repr

def Style.setEffect (style : Style) (effect : Effect) (isOn : Bool) : Style :=
  { style with effects := (effect, isOn) :: style.effects }

def colorNames : List String :=
  colorData.flatMap fun line => splitAtChar ' ' line

def colorLimit : Nat := 255

def between? (start ending : String) (chars : List Char) : Option (List Char) :=
  let (start, ending) := (start.toList, ending.toList)
  if start.isPrefixOf chars && ending.isSuffixOf (chars.drop start.length) then
    some ((chars.drop start.length).take (chars.length - start.length - ending.length))
  else none

def checkParts (inside : List Char) : Except StyleError Unit := do
  if inside.isEmpty || !inside.all (fun c => c == ',' || isDecimal c) then throw .unknown
  match splitChars ',' inside with
  | [red, green, blue] =>
    let parts ← ([red, green, blue].mapM readDigits).mapError StyleError.number
    if parts.any (colorLimit < ·) then throw .unknown
  | _ => throw .unknown

def isTableNumber (digits : List Char) : Bool :=
  !digits.isEmpty && decide (digits.length ≤ 3) && digits.all Char.isDigit &&
    decide (valueOfDigits digits ≤ colorLimit)

def isHexColor (digits : List Char) : Bool :=
  digits.length == 6 && digits.all fun c => (hexValue? c).isSome

def colorName (word : String) : Except StyleError String := do
  let name := lower word
  let chars := name.toList
  if name = "default" || colorNames.contains name then return name
  match chars with
  | '#' :: digits => if isHexColor digits then return name else throw .unknown
  | _ =>
    match between? "color(" ")" chars, between? "rgb(" ")" chars with
    | some digits, _ => if isTableNumber digits then return name else throw .unknown
    | none, some inside =>
      checkParts inside
      return name
    | none, none => throw .unknown

def Style.readWords (style : Style) : List String → Except StyleError Style
  | [] => .ok style
  | word :: rest =>
    let known := lower word
    if known = "on" then
      match rest with
      | [] => .error .unknown
      | next :: more => do
        let name ← colorName next
        Style.readWords { style with background := some name } more
    else if known = "not" then
      match rest with
      | [] => .error .unknown
      | next :: more =>
        match Effect.ofWord? next with
        | none => .error .unknown
        | some effect => Style.readWords (style.setEffect effect false) more
    else if known = "link" then
      match rest with
      | [] => .error .unknown
      | next :: more => Style.readWords { style with link := some next } more
    else
      match Effect.ofWord? known with
      | some effect => Style.readWords (style.setEffect effect true) rest
      | none => do
        let name ← colorName known
        Style.readWords { style with color := some name } rest

def wordsOf (text : String) : List String :=
  let spaced := text.toList.map fun c => if isBlank c then ' ' else c
  (splitAtChar ' ' (String.ofList spaced)).filter (· ≠ "")

def plainStyle : String := "none"

def Style.read (text : String) : Except StyleError Style :=
  if trim text = plainStyle then .ok {} else Style.readWords {} (wordsOf text)

def Style.words (style : Style) : List String :=
  (Effect.all.flatMap fun effect =>
    match style.effects.lookup effect with
    | some true => [effect.name]
    | some false => ["not", effect.name]
    | none => []) ++
  style.color.toList ++
  (style.background.map fun color => ["on", color]).getD [] ++
  (style.link.map fun target => ["link", target]).getD []

def Style.text (style : Style) : String :=
  if style.words.isEmpty then plainStyle else joinWith " " style.words

def normalStyle (name : String) : Except IntegerError String :=
  match Style.read name with
  | .ok style => .ok style.text
  | .error .unknown => .ok (lower (trim name))
  | .error (.number error) => .error error

end SqlScaffold.Console
