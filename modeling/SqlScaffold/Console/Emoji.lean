import SqlScaffold.Console.EmojiTable
import SqlScaffold.Text.Case
import SqlScaffold.Text.Normal

/-!
Pictures in console texts. A name between two colons stands for a picture, and the end of the name
may ask for its colored or for its plain form.
-/

namespace SqlScaffold.Console

open Text

def emojiOf (entry : List Char) : String × List Char :=
  (String.ofList (entry.takeWhile (· != ':')),
    (splitChars '+' ((entry.dropWhile (· != ':')).drop 1)).map fun digits =>
      Char.ofNat (hexNumber digits))

def emojis : List (String × List Char) :=
  emojiData.flatMap fun line => (splitChars ' ' line.toList).map emojiOf

def emojiForms : List (List Char × Char) :=
  [("-emoji".toList, Char.ofNat 0xFE0F), ("-text".toList, Char.ofNat 0xFE0E)]

def splitForm (name : List Char) : List Char × List Char :=
  match emojiForms.find? fun form => form.1.isSuffixOf name with
  | some form => (name.take (name.length - form.1.length), [form.2])
  | none => (name, [])

def emoji? (name : List Char) : Option (List Char) :=
  let (base, form) := splitForm name
  (emojis.lookup (lower (String.ofList base))).map (· ++ form)

def emojiName? (chars : List Char) : Option (List Char) :=
  let name := chars.takeWhile fun c => c != ':' && !isBlank c
  if (chars.drop name.length).head? = some ':' then some name else none

/-- Puts pictures in the place of their names. The next `skipped` characters are dropped. -/
def replaceFrom (skipped : Nat) : List Char → List Char
  | [] => []
  | c :: rest =>
    if 0 < skipped then replaceFrom (skipped - 1) rest
    else
      match if c = ':' then emojiName? rest else none with
      | none => c :: replaceFrom 0 rest
      | some name =>
        (emoji? name).getD (c :: name ++ [':']) ++ replaceFrom (name.length + 1) rest

def replaceEmojis (chars : List Char) : List Char := replaceFrom 0 chars

end SqlScaffold.Console
