import SqlScaffold.Console.Markup
import SqlScaffold.Text.Cells

/-!
Printed lines. A text is printed line by line: tabs become blanks, a line that is too wide goes on
in the next one at a blank, and no line ends in blanks. Source code is cut at the right edge
instead, and a word of a table that is too wide ends in an ellipsis.
-/

namespace SqlScaffold.Console

open Text

/-- Assumed of the terminal, which decides where long lines are broken. -/
def consoleWidth : Nat := 1000

/-- Replaces tabs by blanks up to the next tab stop. A character takes as much room as `room`
says, and `column` is where the text starts. -/
def expandTabs (room : Char → Nat) (stop column : Nat) : List Char → List Char
  | [] => []
  | c :: rest =>
    if c = '\t' then
      let blanks := stop - column % stop
      List.replicate blanks ' ' ++ expandTabs room stop (column + blanks) rest
    else c :: expandTabs room stop (column + room c) rest

/-- Splits a line into words, each with the blanks behind it. Blanks at the start belong to the
first word. `held` is the current word, last character first. -/
def wordsFrom (held : List Char) : List Char → List (List Char)
  | [] => if held.all isBlank then [] else [held.reverse]
  | c :: rest =>
    let ends := !isBlank c && !held.all isBlank && (held.head?.map isBlank).getD false
    if ends then held.reverse :: wordsFrom [c] rest else wordsFrom (c :: held) rest

def chopFrom (width used : Nat) (held : List Char) : List Char → List (List Char)
  | [] => [held.reverse]
  | c :: rest =>
    if width < used + cellsOfChar c then
      held.reverse :: chopFrom width (cellsOfChar c) [c] rest
    else chopFrom width (used + cellsOfChar c) (c :: held) rest

structure Filling where
  finished : List (List Char)
  current : List Char
  used : Nat

def Filling.startLine (filling : Filling) (piece : List Char) : Filling :=
  ⟨if filling.current.isEmpty then filling.finished else filling.finished ++ [filling.current],
    piece, cells piece⟩

inductive WideWord where
  | chop
  | keep
  deriving DecidableEq, Repr

def Filling.place (wide : WideWord) (width : Nat) (filling : Filling) (word : List Char) :
    Filling :=
  let room := cells (dropTrailingBlanks word)
  if filling.used + room ≤ width then
    { filling with current := filling.current ++ word, used := filling.used + cells word }
  else if width < room then
    match wide with
    | .chop => (chopFrom width 0 [] word).foldl Filling.startLine filling
    | .keep => filling.startLine word
  else if filling.used = 0 then { filling with current := filling.current ++ word }
  else filling.startLine word

def wrap (wide : WideWord) (width : Nat) (line : List Char) : List (List Char) :=
  match wordsFrom [] line with
  | [] => [line]
  | words =>
    let filled := words.foldl (Filling.place wide width) ⟨[], [], 0⟩
    filled.finished ++ [filled.current]

def Span.between? (span : Span) (start stop : Nat) : Option Span :=
  if max span.start start < min span.stop stop then
    some { span with start := max span.start start - start, stop := min span.stop stop - start }
  else none

def Span.shift (span : Span) (places : Nat) : Span :=
  { span with start := span.start + places, stop := span.stop + places }

/-- Gives pieces of a text their spans. The pieces are `gap` characters apart, and the first one
starts at `place`. -/
def spansOver (spans : List Span) (gap place : Nat) : List (List Char) → List StyledText
  | [] => []
  | piece :: rest =>
    let stop := place + piece.length
    ⟨piece, spans.filterMap (·.between? place stop)⟩ :: spansOver spans gap (stop + gap) rest

def StyledText.divide (text : StyledText) (gap : Nat) : List (List Char) → List StyledText
  | [_] => [text]
  | pieces => spansOver text.spans gap 0 pieces

def tabPieces (line : List Char) : List (List Char) :=
  let parts := splitChars '\t' line
  parts.dropLast.map (· ++ ['\t']) ++ (parts.getLast?.filter (· != [])).toList

def StyledText.expandPiece (stop : Nat) (piece : StyledText) : StyledText :=
  let chars := expandTabs cellsOfChar stop 0 piece.chars
  ⟨chars, piece.spans.map fun span =>
    if span.stop = piece.chars.length then { span with stop := chars.length } else span⟩

def StyledText.append (first second : StyledText) : StyledText :=
  ⟨first.chars ++ second.chars, first.spans ++ second.spans.map (·.shift first.chars.length)⟩

def StyledText.expandTabs (stop : Nat) (line : StyledText) : StyledText :=
  if line.chars.contains '\t' then
    ((spansOver line.spans 0 0 (tabPieces line.chars)).map (·.expandPiece stop)).foldr
      StyledText.append ⟨[], []⟩
  else line

def StyledText.withChars (text : StyledText) (chars : List Char) : StyledText :=
  ⟨chars,
    if chars.length < text.chars.length then
      text.spans.filter fun span => decide (span.start < chars.length)
    else text.spans⟩

def StyledText.dropBlanksBeyond (width : Nat) (line : StyledText) : StyledText :=
  line.withChars (line.chars.take (max width (dropTrailingBlanks line.chars).length))

def StyledText.fit (width : Nat) (ellipsis : Bool) (line : StyledText) : StyledText :=
  if cells line.chars ≤ width then line
  else if ellipsis then line.withChars (resize (width - 1) line.chars ++ ['…'])
  else line.withChars (resize width line.chars)

def StyledText.lines (wide : WideWord) (width : Nat) (text : StyledText) : List StyledText :=
  (text.divide 1 (splitChars '\n' text.chars)).flatMap fun line =>
    let line := line.expandTabs 8
    (line.divide 0 (wrap wide width line.chars)).map fun piece =>
      (piece.dropBlanksBeyond width).fit width (wide = .keep)

def finishLine (line : List Char) : String := String.ofList (dropTrailingBlanks line)

def printedLines (marked : String) : Except MarkupError (List String) := do
  let text ← StyledText.read marked
  let lines := text.lines .chop consoleWidth
  lines.forM StyledText.check
  .ok (lines.map fun line => finishLine line.chars)

def codeLines (code : String) : List String :=
  (splitChars '\n' code.toList).map fun line =>
    let chars := dropControls (expandTabs (fun _ => 1) 4 0 line)
    finishLine ((StyledText.dropBlanksBeyond consoleWidth ⟨chars, []⟩).fit consoleWidth false).chars

theorem map_chars_spansOver (spans : List Span) (gap place : Nat) (pieces : List (List Char)) :
    (spansOver spans gap place pieces).map StyledText.chars = pieces := by
  induction pieces generalizing place with
  | nil => rfl
  | cons piece rest ih => rw [spansOver, List.map_cons, ih]

theorem StyledText.chars_divide (text : StyledText) (gap : Nat) (pieces : List (List Char))
    (whole : ∀ piece, pieces = [piece] → piece = text.chars) :
    (text.divide gap pieces).map StyledText.chars = pieces := by
  unfold StyledText.divide
  split
  · next piece => simp [whole piece rfl]
  · exact map_chars_spansOver text.spans gap 0 pieces

end SqlScaffold.Console
