import SqlScaffold.Text.Lines

/-!
Layout of generated sources: indentation, line comments and the final form of a unit. In that form
no line ends in blanks, no two blank lines follow each other, none comes first, and the text ends
with one line feed.
-/

namespace SqlScaffold.Source

open Text

inductive BlanksError where
  | uncountable
  | noRoom
  deriving DecidableEq, Repr

def BlanksError.message : BlanksError → String
  | uncountable => "cannot fit 'int' into an index-sized integer"
  | noRoom => ""

def countLimit : Int := 0x8000000000000000

/-- Assumed of the machine: it holds any fewer blanks, and has no room for so many. -/
def roomLimit : Int := 0x800000000

/-- The number of blanks that a number asks for; a negative one asks for none. -/
def blankCount (number : Int) : Except BlanksError Nat :=
  if number < -countLimit ∨ countLimit ≤ number then .error .uncountable
  else if roomLimit ≤ number then .error .noRoom
  else .ok number.toNat

def indentLines (width : Nat) (lines : List String) : List String :=
  lines.map fun line => if allBlank line then line else repeated width ' ' ++ line

def lineComment (marker text : String) : String :=
  joinWith "\n" ((splitAtChar '\n' text).map fun line =>
    if allBlank line then line else marker ++ " " ++ line)

/-- Keeps an empty line only behind a line that is not empty. -/
def collapseBlank (afterText : Bool) : List String → List String
  | [] => []
  | line :: rest =>
    if line ≠ "" then line :: collapseBlank true rest
    else if afterText then line :: collapseBlank false rest
    else collapseBlank false rest

def dropFinalBlank : List String → List String
  | [] => []
  | line :: rest =>
    match dropFinalBlank rest with
    | [] => if line = "" then [] else [line]
    | kept => line :: kept

def normalLines (code : String) : List String :=
  dropFinalBlank (collapseBlank false ((splitLines code).map trimEnd))

def normalize (code : String) : String := joinWith "\n" (normalLines code) ++ "\n"

end SqlScaffold.Source
