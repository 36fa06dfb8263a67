import SqlScaffold.Number.Integer
import SqlScaffold.Value

/-!
Reading JSON documents. The accepted format is the standard one and the three names `NaN`,
`Infinity` and `-Infinity`; of two members with one name the later value counts. A fault tells
the first place at which the document leaves the format, or the first limit that it goes beyond.
-/

namespace SqlScaffold.Json

open Number Text

inductive Problem where
  | expectedValue
  | expectedName
  | expectedColon
  | expectedComma
  | extraData
  | unterminatedText
  | unknownEscape
  | brokenCodeEscape
  | controlCharacter
  | byteOrderMark
  deriving DecidableEq, Repr

def Problem.message : Problem → String
  | expectedValue => "Expecting value"
  | expectedName => "Expecting property name enclosed in double quotes"
  | expectedColon => "Expecting ':' delimiter"
  | expectedComma => "Expecting ',' delimiter"
  | extraData => "Extra data"
  | unterminatedText => "Unterminated string starting at"
  | unknownEscape => "Invalid \\escape"
  | brokenCodeEscape => "Invalid \\uXXXX escape"
  | controlCharacter => "Invalid control character at"
  | byteOrderMark => "Unexpected UTF-8 BOM (decode using utf-8-sig)"

inductive Container where
  | array
  | object
  deriving DecidableEq, Repr

def Container.name : Container → String
  | array => "array"
  | object => "object"

/-- A limit of documents: how many digits a number has, and how deep containers stand in others. -/
inductive Excess where
  | number (error : IntegerError)
  | nesting (container : Container)
  deriving DecidableEq, Repr

def Excess.message : Excess → String
  | number error => error.message
  | nesting container =>
    "maximum recursion depth exceeded while decoding a JSON " ++ container.name ++
      " from a unicode string"

/-- Assumed: containers may stand in as many others as calls are left to a program that has just been
started. Who reads documents from deeper calls has less. -/
def nestingLimit : Nat := 985

inductive Fault where
  | leaves (problem : Problem) (remaining : Nat)
  | exceeds (excess : Excess)
  deriving DecidableEq, Repr

abbrev Reading (α : Type) := α × List Char

def failAt {α : Type} (problem : Problem) (rest : List Char) : Except Fault (Reading α) :=
  .error (.leaves problem rest.length)

def isGap (c : Char) : Bool := c = ' ' || c = '\t' || c = '\n' || c = '\r'

def skipGap (chars : List Char) : List Char := chars.dropWhile isGap

def fourHex? : List Char → Option (Nat × List Char)
  | a :: b :: c :: d :: rest => do
    let high ← hexValue? a
    let second ← hexValue? b
    let third ← hexValue? c
    let low ← hexValue? d
    some (high * 4096 + second * 256 + third * 16 + low, rest)
  | _ => none

/-- One half of a pair of codes, which is a character only together with the other half. -/
def isHalf (code : Nat) : Bool := 0xD800 ≤ code && code < 0xE000

section Texts

-- What is read where half of a pair stands alone. Texts are made of characters and cannot hold it.
variable (standIn : Char)

def charOfCode (code : Nat) : Char := if isHalf code then standIn else Char.ofNat code

def readCode (chars : List Char) : Except Fault (Reading Char) :=
  if (chars.take 6).length < 6 then failAt .brokenCodeEscape chars
  else
    match fourHex? chars.tail with
    | none => failAt .brokenCodeEscape chars
    | some (high, rest) =>
      match rest with
      | '\\' :: 'u' :: more =>
        if 0xD800 ≤ high ∧ high < 0xDC00 ∧ (more.take 5).length = 5 then
          match fourHex? more with
          | none => failAt .brokenCodeEscape ('u' :: more)
          | some (low, after) =>
            if 0xDC00 ≤ low ∧ low < 0xE000 then
              .ok (Char.ofNat (0x10000 + (high - 0xD800) * 1024 + (low - 0xDC00)), after)
            else .ok (charOfCode standIn high, rest)
        else .ok (charOfCode standIn high, rest)
      | _ => .ok (charOfCode standIn high, rest)

def plainEscape? (c : Char) : Option Char :=
  if c = '"' || c = '\\' || c = '/' then some c
  else if c = 'b' then some (Char.ofNat 8)
  else if c = 'f' then some (Char.ofNat 12)
  else if c = 'n' then some '\n'
  else if c = 'r' then some '\r'
  else if c = 't' then some '\t'
  else none

/-- Reads the inside of a text and its closing quote. `opening` is the document from the opening
quote on. -/
def readText (opening : List Char) : Nat → List Char → Except Fault (Reading (List Char))
  | 0, _ | _, [] => failAt .unterminatedText opening
  | fuel + 1, c :: rest =>
    if c = '"' then .ok ([], rest)
    else if c = '\\' then
      match rest with
      | [] => failAt .unterminatedText opening
      | escaped :: more =>
        if escaped = 'u' then do
          let (decoded, after) ← readCode standIn rest
          let (tail, after) ← readText opening fuel after
          .ok (decoded :: tail, after)
        else
          match plainEscape? escaped with
          | none => failAt .unknownEscape (c :: rest)
          | some decoded => do
            let (tail, after) ← readText opening fuel more
            .ok (decoded :: tail, after)
    else if c.toNat < 0x20 then failAt .controlCharacter (c :: rest)
    else do
      let (tail, after) ← readText opening fuel rest
      .ok (c :: tail, after)

end Texts

def digitRun (chars : List Char) : List Char × List Char :=
  (chars.takeWhile Char.isDigit, chars.dropWhile Char.isDigit)

def readFraction (chars : List Char) : Option (List Char × List Char) :=
  match chars with
  | '.' :: rest => if (digitRun rest).1.isEmpty then none else some (digitRun rest)
  | _ => none

def readExponent (chars : List Char) : Option (Int × List Char) :=
  match chars with
  | [] => none
  | mark :: rest =>
    if mark = 'e' || mark = 'E' then
      let signed : Bool × List Char :=
        match rest with
        | '-' :: more => (true, more)
        | '+' :: more => (false, more)
        | more => (false, more)
      let run := digitRun signed.2
      if run.1.isEmpty then none
      else
        let size : Int := valueOfDigits run.1
        some (if signed.1 then -size else size, run.2)
    else none

def readNumber (chars : List Char) : Except Fault (Reading Value) :=
  let signed : Bool × List Char :=
    match chars with
    | '-' :: rest => (true, rest)
    | rest => (false, rest)
  let whole :=
    match signed.2 with
    | '0' :: rest => (['0'], rest)
    | rest => digitRun rest
  if whole.1.isEmpty then failAt .expectedValue chars
  else
    let fraction := (readFraction whole.2).getD ([], whole.2)
    let exponent := (readExponent fraction.2).getD (0, fraction.2)
    if fraction.1.isEmpty && (readExponent fraction.2).isNone then do
      let size ← (readDigits whole.1).mapError fun error => Fault.exceeds (.number error)
      .ok (.int (if signed.1 then -(size : Int) else size), whole.2)
    else
      .ok (.float (Floating.ofDecimal
        ⟨signed.1, valueOfDigits (whole.1 ++ fraction.1), exponent.1 - fraction.1.length⟩),
        exponent.2)

def names : List (List Char × Value) :=
  [("null".toList, .null), ("true".toList, .bool true), ("false".toList, .bool false),
    ("NaN".toList, .float .undefined), ("Infinity".toList, .float (.infinite false)),
    ("-Infinity".toList, .float (.infinite true))]

def readName? (chars : List Char) : Option (Value × List Char) :=
  (names.find? fun entry => entry.1.isPrefixOf chars).map fun entry =>
    (entry.2, chars.drop entry.1.length)

section Documents

variable (standIn : Char)

mutual

def readValue (depth : Nat) : Nat → List Char → Except Fault (Reading Value)
  | 0, chars => failAt .expectedValue chars
  | fuel + 1, chars =>
    match chars with
    | '"' :: rest => do
      let (content, after) ← readText standIn chars fuel rest
      .ok (.text (String.ofList content), after)
    | '{' :: rest =>
      if nestingLimit ≤ depth then .error (.exceeds (.nesting .object))
      else
        match skipGap rest with
        | '}' :: after => .ok (.object [], after)
        | inside => readMembers (depth + 1) fuel [] inside
    | '[' :: rest =>
      if nestingLimit ≤ depth then .error (.exceeds (.nesting .array))
      else
        match skipGap rest with
        | ']' :: after => .ok (.list [], after)
        | inside => readItems (depth + 1) fuel [] inside
    | _ =>
      match readName? chars with
      | some found => .ok found
      | none => readNumber chars

def readMembers (depth : Nat) : Nat → Entries → List Char → Except Fault (Reading Value)
  | 0, _, chars => failAt .expectedName chars
  | fuel + 1, entries, chars =>
    match chars with
    | '"' :: rest => do
      let (name, after) ← readText standIn chars fuel rest
      match skipGap after with
      | ':' :: behind => do
        let (value, after) ← readValue depth fuel (skipGap behind)
        let entries := entries.put (String.ofList name) value
        match skipGap after with
        | '}' :: after => .ok (.object entries, after)
        | ',' :: after => readMembers depth fuel entries (skipGap after)
        | other => failAt .expectedComma other
      | other => failAt .expectedColon other
    | _ => failAt .expectedName chars

/-- Reads the items of a list from the next one on; `items` holds those before, last first. -/
def readItems (depth : Nat) : Nat → List Value → List Char → Except Fault (Reading Value)
  | 0, _, chars => failAt .expectedValue chars
  | fuel + 1, items, chars => do
    let (item, after) ← readValue depth fuel chars
    match skipGap after with
    | ']' :: after => .ok (.list (item :: items).reverse, after)
    | ',' :: after => readItems depth fuel (item :: items) (skipGap after)
    | other => failAt .expectedComma other

end

def readDocument (chars : List Char) : Except Fault Value :=
  match chars with
  | '\uFEFF' :: _ => .error (.leaves .byteOrderMark chars.length)
  | _ => do
    let (value, after) ← readValue standIn 0 (chars.length + 1) (skipGap chars)
    match skipGap after with
    | [] => .ok value
    | extra => .error (.leaves .extraData extra.length)

end Documents

structure ReadError where
  problem : Problem
  line : Nat
  column : Nat
  offset : Nat
  deriving DecidableEq, Repr

def ReadError.message (error : ReadError) : String :=
  let line := toString error.line
  let column := toString error.column
  let offset := toString error.offset
  error.problem.message ++ s!": line {line} column {column} (char {offset})"

inductive Refusal where
  | malformed (error : ReadError)
  | exceeding (excess : Excess)
  deriving DecidableEq, Repr

def Refusal.message : Refusal → String
  | malformed error => error.message
  | exceeding excess => excess.message

def locate (chars : List Char) (fault : Fault) : Refusal :=
  match fault with
  | .exceeds excess => .exceeding excess
  | .leaves problem remaining =>
    let offset := chars.length - remaining
    let before := chars.take offset
    .malformed ⟨problem, before.count '\n' + 1,
      (before.reverse.takeWhile (· ≠ '\n')).length + 1, offset⟩

def readWith (standIn : Char) (document : String) : Except Refusal Value :=
  (readDocument standIn document.toList).mapError (locate document.toList)

/-- Reads a document. Only a document that `IsWhole` is read as it was written. -/
def read (document : String) : Except Refusal Value := readWith replacementChar document

/-- Nothing that is read depends on what stands for half of a pair, so that no half stands in it. -/
def IsWhole (document : String) : Prop := ∀ standIn, readWith standIn document = read document

theorem isWhole_of_readWith {document : String} {outcome : Except Refusal Value}
    (reads : ∀ standIn, readWith standIn document = outcome) : IsWhole document :=
  fun standIn => (reads standIn).trans (reads replacementChar).symm

end SqlScaffold.Json
