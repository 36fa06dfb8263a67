import SqlScaffold.Console.Printed

/-!
Tables on the console. A column is as wide as its widest text, as long as the table fits, the title
stands over the middle of the table, and cells are marked texts.
-/

namespace SqlScaffold.Console

open Text

structure Frame where
  topLeft : Char
  topRight : Char
  topCross : Char
  headLeft : Char
  headRight : Char
  headCross : Char
  bottomLeft : Char
  bottomRight : Char
  bottomCross : Char
  edge : Char
  divider : Char
  outline : Char
  rule : Char

def rounded : Frame where
  topLeft := '╭'
  topRight := '╮'
  topCross := '┬'
  headLeft := '├'
  headRight := '┤'
  headCross := '┼'
  bottomLeft := '╰'
  bottomRight := '╯'
  bottomCross := '┴'
  edge := '│'
  divider := '│'
  outline := '─'
  rule := '─'

def simple : Frame where
  topLeft := ' '
  topRight := ' '
  topCross := ' '
  headLeft := ' '
  headRight := ' '
  headCross := '─'
  bottomLeft := ' '
  bottomRight := ' '
  bottomCross := ' '
  edge := ' '
  divider := ' '
  outline := ' '
  rule := '─'

structure Table where
  title : String
  frame : Frame
  headings : String × String
  rows : List (String × String)

def cellWidth (cell : StyledText) : Nat := ((linesFrom [] cell.chars).map cells).foldl max 0

def columnWidth (column : List StyledText) : Nat := (column.map cellWidth).foldl max 0

def cellLines (width : Nat) (cell : StyledText) : Except MarkupError (List (List Char)) := do
  let lines := cell.lines .keep width
  lines.forM StyledText.check
  .ok (lines.map StyledText.chars)

def evenHalf (number : Nat) : Nat := if number % 4 = 3 then number / 2 + 1 else number / 2

/-- Narrows two columns that together may not exceed a limit: the wider one first, then both. -/
def narrow (limit : Nat) (widths : Nat × Nat) : Nat × Nat :=
  let excess := widths.1 + widths.2 - limit
  let gap := max widths.1 widths.2 - min widths.1 widths.2
  if excess ≤ gap then
    if widths.1 < widths.2 then (widths.1, widths.2 - excess) else (widths.1 - excess, widths.2)
  else
    let width := min widths.1 widths.2
    let rest := excess - gap
    (width - evenHalf rest, width - (rest - evenHalf rest))

def padding : Nat := 2
def uprights : Nat := 3

def settleWidths (widths : Nat × Nat) : Nat × Nat :=
  let limit := consoleWidth - uprights
  let settled := narrow limit (min (widths.1 + padding) limit, min (widths.2 + padding) limit)
  (settled.1 - padding, settled.2 - padding)

def ruleLine (left cross right fill : Char) (widths : Nat × Nat) : List Char :=
  left :: List.replicate (widths.1 + 2) fill ++ cross ::
    List.replicate (widths.2 + 2) fill ++ [right]

def rowLines (frame : Frame) (widths : Nat × Nat) (row : StyledText × StyledText) :
    Except MarkupError (List (List Char)) := do
  let left ← cellLines widths.1 row.1
  let right ← cellLines widths.2 row.2
  .ok ((List.range (max left.length right.length)).map fun index =>
    frame.edge :: ' ' :: padTo widths.1 (left.getD index []) ++ ' ' :: frame.divider :: ' ' ::
      padTo widths.2 (right.getD index []) ++ [' ', frame.edge])

def titleLine (title : String) (width : Nat) : List Char :=
  List.replicate ((width - cells title.toList) / 2) ' ' ++ title.toList

/-- The lines of a table. All cells of the first column are read before those of the second, and
the styles of the cells row by row after that. -/
def Table.lines (table : Table) : Except MarkupError (List String) := do
  let firsts ← (table.rows.map Prod.fst).mapM StyledText.read
  let seconds ← (table.rows.map Prod.snd).mapM StyledText.read
  let headings : StyledText × StyledText :=
    (⟨table.headings.1.toList, []⟩, ⟨table.headings.2.toList, []⟩)
  let widths :=
    settleWidths (columnWidth (headings.1 :: firsts), columnWidth (headings.2 :: seconds))
  let frame := table.frame
  let head ← rowLines frame widths headings
  let rows ← (firsts.zip seconds).mapM (rowLines frame widths)
  let drawn :=
    titleLine table.title (widths.1 + widths.2 + 2 * padding + uprights) ::
    ruleLine frame.topLeft frame.topCross frame.topRight frame.outline widths ::
    head ++
    ruleLine frame.headLeft frame.headCross frame.headRight frame.rule widths ::
    rows.flatten ++
    [ruleLine frame.bottomLeft frame.bottomCross frame.bottomRight frame.outline widths]
  .ok (drawn.map finishLine)

end SqlScaffold.Console
