import SqlScaffold.Expression.Token
import SqlScaffold.Text.CharacterName

/-!
Escapes in quotations. A fault in one is told by its place in the quotation, where a character
outside the first 128 counts as the long escape that it could be written by.
-/

namespace SqlScaffold.Expression

open Text

def unitsOf (c : Char) : Nat := if c.toNat < 128 then 1 else 10

def escapedBackslash : Nat := 6

def unitCount : List Char → Nat
  | [] => 0
  | '\\' :: next :: rest =>
    if next.toNat < 128 then 2 + unitCount rest
    else escapedBackslash + unitsOf next + unitCount rest
  | ['\\'] => escapedBackslash
  | c :: rest => unitsOf c + unitCount rest

def escapeDigits? (letter : Char) : Option (Nat × String) :=
  if letter = 'x' then some (2, "xXX")
  else if letter = 'u' then some (4, "uXXXX")
  else if letter = 'U' then some (8, "UXXXXXXXX")
  else none

def codeLimit : Nat := 0x110000

def escapeFault? (place : Nat) (letter : Char) (rest : List Char) : Option Fault :=
  if letter = 'N' then
    match rest with
    | '\x7b' :: inside =>
      let name := inside.takeWhile (· != '\x7d')
      if name.length = inside.length then
        some (.badEscape place (place + 2 + unitCount inside) .namelessForm)
      else if name.isEmpty then some (.badEscape place (place + 2) .namelessForm)
      else if isCharacterName (String.ofList name) then none
      else some (.badEscape place (place + 2 + unitCount (name ++ ['\x7d'])) .unknownName)
    | _ => some (.badEscape place (place + 1) .namelessForm)
  else
    match escapeDigits? letter with
    | none => none
    | some (count, form) =>
      let digits := (rest.take count).takeWhile fun c => (hexValue? c).isSome
      if digits.length < count then
        some (.badEscape place (place + 1 + digits.length) (.short form))
      else if codeLimit ≤ valueIn 16 digits then some (.badEscape place (place + 1 + count) .outside)
      else none

def textFault? (place : Nat) : List Char → Option Fault
  | [] => none
  | '\\' :: next :: rest =>
    if next.toNat < 128 then
      (escapeFault? place next rest).or (textFault? (place + 2) rest)
    else textFault? (place + escapedBackslash + unitsOf next) rest
  | c :: rest => textFault? (place + unitsOf c) rest

def bytesFault? (place : Nat) : List Char → Option Fault
  | [] => none
  | '\\' :: next :: rest =>
    let digits := (rest.take 2).takeWhile fun c => (hexValue? c).isSome
    if next = 'x' ∧ digits.length < 2 then some (.badByteEscape place)
    else bytesFault? (place + 2) rest
  | _ :: rest => bytesFault? (place + 1) rest

structure Quotation where
  kind : QuotationKind
  inside : List Char

def Quotation.ofToken (text : String) : Quotation :=
  let chars := text.toList
  let letters := chars.takeWhile fun c => !isQuote c
  let quotes := chars.drop letters.length
  let width :=
    match quotes with
    | first :: second :: third :: _ :: _ :: _ =>
      if first = second ∧ second = third then 3 else 1
    | _ => 1
  let kind := (quotationKind? letters).getD ⟨false, false, false⟩
  ⟨kind, (quotes.drop width).take (quotes.length - 2 * width)⟩

end SqlScaffold.Expression
