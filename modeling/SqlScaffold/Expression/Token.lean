import SqlScaffold.Expression.Numeral
import SqlScaffold.Text.Identifier
import SqlScaffold.Text.Lines

/-!
Tokens of expressions: names, numbers, quotations and signs. A line break between brackets counts
as a blank; elsewhere it is a token, and so is a change of the indentation behind it.
-/

namespace SqlScaffold.Expression

open Text

inductive Token where
  | name (text : String)
  | number (text : String)
  | quotation (text : String)
  | sign (text : String)
  | lineBreak
  | indent
  | dedent
  | finish
  deriving DecidableEq, Repr

/-- A token with its line and the number of brackets that are open behind it. `last` holds if
nothing follows it and that was noticed. -/
structure PlacedToken where
  token : Token
  line : Nat
  depth : Nat
  last : Bool
  deriving Repr

structure Opened where
  bracket : Char
  line : Nat
  deriving Repr

/-- Why no more tokens follow. A broken token counts as soon as anything is wrong; a text that
just stops only counts where its next token is needed. -/
inductive Halt where
  | broken (fault : Fault)
  | stopped (fault : Fault) (opened : List Opened)
  deriving Repr

def longSigns : List String :=
  ["**=", "//=", ">>=", "<<=", "...", "**", "//", ">>", "<<", "<=", ">=", "==", "!=", "->", "+=",
    "-=", "*=", "/=", "%=", "&=", "|=", "^=", "@=", ":=", "<>"]

def longSignAt? (chars : List Char) : Option String :=
  longSigns.find? fun sign => sign.toList.isPrefixOf chars

structure QuotationKind where
  raw : Bool
  binary : Bool
  formatted : Bool
  deriving Repr

def quotationKind? (letters : List Char) : Option QuotationKind :=
  let lowered := String.ofList (letters.map Char.toLower)
  if ["", "u"].contains lowered then some ⟨false, false, false⟩
  else if lowered = "f" then some ⟨false, false, true⟩
  else if lowered = "r" then some ⟨true, false, false⟩
  else if ["fr", "rf"].contains lowered then some ⟨true, false, true⟩
  else if lowered = "b" then some ⟨false, true, false⟩
  else if ["br", "rb"].contains lowered then some ⟨true, true, false⟩
  else none

def isQuote (c : Char) : Bool := c == '\'' || c == '"'

def lineBehind (line : Nat) (rest : List Char) : Nat := if rest.isEmpty then line else line + 1

/-- Skips the inside and the end of a quotation. `closing` counts the quotes just before. -/
def skipQuotation (quote : Char) (triple : Bool) :
    Nat → Nat → List Char → Except Fault (Nat × List Char)
  | line, _, [] => .error (if triple then .openBlock line else .openQuotation line)
  | line, closing, c :: rest =>
    if c = '\n' ∧ triple = false then .error (.openQuotation line)
    else if c = quote then
      if triple = false ∨ closing = 2 then .ok (line, rest)
      else skipQuotation quote triple line (closing + 1) rest
    else if c = '\\' then
      match rest with
      | [] => skipQuotation quote triple line 0 []
      | next :: later =>
        skipQuotation quote triple (if next = '\n' then lineBehind line later else line) 0 later
    else skipQuotation quote triple (if c = '\n' then lineBehind line rest else line) 0 rest

def skipQuoted (line : Nat) (quote : Char) (chars : List Char) : Except Fault (Nat × List Char) :=
  match chars with
  | second :: third :: rest =>
    if second = quote ∧ third = quote then skipQuotation quote true line 0 rest
    else skipQuotation quote false line 0 chars
  | _ => skipQuotation quote false line 0 chars

def taken (chars rest : List Char) : String :=
  String.ofList (chars.take (chars.length - rest.length))

def strangePart? : List Char → Option Char
  | [] => none
  | c :: rest =>
    if isIdentifierStart c then rest.find? fun part => !isIdentifierPart part else some c

def readToken (line : Nat) (chars : List Char) : Except Fault (Token × Nat × List Char) :=
  match chars with
  | [] => .ok (.finish, line, [])
  | c :: rest =>
    if startsName c then
      let letters := chars.takeWhile continuesName
      let behind := chars.drop letters.length
      match behind, quotationKind? letters with
      | quote :: inside, some _ =>
        if isQuote quote then do
          let (last, after) ← skipQuoted line quote inside
          .ok (.quotation (taken chars after), last, after)
        else .ok (.name (String.ofList letters), line, behind)
      | _, _ =>
        match strangePart? letters with
        | some part => .error (.strange part)
        | none => .ok (.name (String.ofList letters), line, behind)
    else if isQuote c then do
      let (last, after) ← skipQuoted line c rest
      .ok (.quotation (taken chars after), last, after)
    else if c.isDigit || (c == '.' && (rest.head?.map Char.isDigit).getD false) then do
      let after ← skipNumber chars
      .ok (.number (taken chars after), line, after)
    else
      match longSignAt? chars with
      | some sign => .ok (.sign sign, line, chars.drop sign.length)
      | none =>
        if isPrintable c then .ok (.sign (String.singleton c), line, rest)
        else .error (.strange c)

def bracketLimit : Nat := 200

def closingOf? (c : Char) : Option Char :=
  if c = '(' then some ')' else if c = '[' then some ']' else if c = '\x7b' then some '\x7d'
  else none

def isClosing (c : Char) : Bool := c == ')' || c == ']' || c == '\x7d'

def bracketsBehind (opened : List Opened) (line : Nat) (c : Char) : Except Fault (List Opened) :=
  if (closingOf? c).isSome then
    if bracketLimit ≤ opened.length then .error .tooManyBrackets else .ok (⟨c, line⟩ :: opened)
  else if isClosing c then
    match opened with
    | [] => .error (.unmatched c)
    | last :: outer =>
      if closingOf? last.bracket = some c then .ok outer
      else
        .error (.crossed last.bracket c (if last.line = line then none else some last.line))
  else .ok opened

/-- Where a line starts: its column if tabs reach to every eighth column, and if they are as wide
as a blank. `broken` is the column at which the line was first continued. -/
structure Indentation where
  column : Nat := 0
  narrow : Nat := 0
  broken : Nat := 0

def Indentation.columns (indentation : Indentation) : Nat × Nat :=
  if indentation.broken = 0 then (indentation.column, indentation.narrow)
  else (indentation.broken, indentation.broken)

def stopFault (opened : List Opened) : Fault :=
  match opened with
  | [] => .suddenEnd
  | last :: _ => .neverClosed last.bracket

def continueLine (opened : List Opened) (rest : List Char) : Except Halt (List Char) :=
  match rest with
  | '\n' :: next :: later => .ok (next :: later)
  | '\n' :: [] => .error (.stopped (stopFault opened) opened)
  | _ => .error (.stopped .afterBackslash opened)

def measure (opened : List Opened) :
    Nat → Indentation → List Char → Except Halt (Indentation × Nat × List Char)
  | line, indentation, [] => .ok (indentation, line, [])
  | line, indentation, c :: rest =>
    if c = ' ' then
      measure opened line
        { indentation with column := indentation.column + 1, narrow := indentation.narrow + 1 } rest
    else if c = '\t' then
      measure opened line
        { indentation with
          column := (indentation.column / 8 + 1) * 8, narrow := indentation.narrow + 1 } rest
    else if c.toNat = 12 then
      measure opened line { indentation with column := 0, narrow := 0 } rest
    else if c = '\\' then
      let broken := if indentation.broken = 0 then indentation.column else indentation.broken
      match rest with
      | '\n' :: next :: later =>
        measure opened (line + 1) { indentation with broken := broken } (next :: later)
      | _ => (continueLine opened rest).map fun after => (indentation, line, after)
    else .ok (indentation, line, c :: rest)

def indentLimit : Nat := 100

def adjust (columns : Nat × Nat) (indents : List (Nat × Nat)) :
    Option (List Token × List (Nat × Nat)) :=
  match indents with
  | [] => none
  | (column, narrow) :: outer =>
    if columns.1 = column then if columns.2 = narrow then some ([], indents) else none
    else if column < columns.1 then
      if indentLimit ≤ indents.length ∨ columns.2 ≤ narrow then none
      else some ([.indent], columns :: indents)
    else
      let left := indents.dropWhile fun indent => decide (columns.1 < indent.1)
      if left.head? = some columns then
        some (List.replicate (outer.length + 1 - left.length) .dedent, left)
      else none

structure Layout where
  line : Nat
  opened : List Opened := []
  indents : List (Nat × Nat) := [(0, 0)]

structure Tokens where
  placed : Array PlacedToken
  halt : Option Halt

def isSpace (c : Char) : Bool := c == ' ' || c == '\t' || c.toNat == 12

def tokensFrom : Nat → Bool → Layout → Array PlacedToken → List Char → Tokens
  | 0, _, _, known, _ => ⟨known, none⟩
  | fuel + 1, fresh, layout, known, chars =>
    if fresh then
      match measure layout.opened layout.line {} chars with
      | .error halt => ⟨known, some halt⟩
      | .ok (indentation, line, rest) =>
        let layout := { layout with line := line }
        let isRemark := rest.head? == some '#'
        let behind := if isRemark then rest.dropWhile (· != '\n') else rest
        match behind with
        | '\n' :: later =>
          tokensFrom fuel true { layout with line := lineBehind line later } known later
        | _ =>
          if isRemark || !layout.opened.isEmpty then tokensFrom fuel false layout known behind
          else
            match adjust indentation.columns layout.indents with
            | none => ⟨known, some (.stopped .unevenLines [])⟩
            | some (changes, indents) =>
              let placed := changes.map fun token => PlacedToken.mk token line 0 false
              tokensFrom fuel false { layout with indents := indents } (known ++ placed) behind
    else
      let rest := chars.dropWhile isSpace
      match (if rest.head? = some '#' then rest.dropWhile (· != '\n') else rest) with
      | [] =>
        if layout.opened.isEmpty then ⟨known.push ⟨.finish, layout.line, 0, true⟩, none⟩
        else ⟨known, some (.stopped (stopFault layout.opened) layout.opened)⟩
      | '\n' :: later =>
        let known :=
          if layout.opened.isEmpty then known.push ⟨.lineBreak, layout.line, 0, false⟩ else known
        tokensFrom fuel true { layout with line := lineBehind layout.line later } known later
      | '\\' :: later =>
        match continueLine layout.opened later with
        | .error halt => ⟨known, some halt⟩
        | .ok after => tokensFrom fuel false { layout with line := layout.line + 1 } known after
      | c :: later =>
        let read := do
          let (token, line, after) ← readToken layout.line (c :: later)
          let opened ← bracketsBehind layout.opened layout.line c
          .ok (token, line, after, opened)
        match read with
        | .error fault => ⟨known, some (.broken fault)⟩
        | .ok (token, line, after, opened) =>
          let last :=
            match token with
            | .quotation _ => false
            | _ => after.isEmpty
          tokensFrom fuel false { layout with line := line, opened := opened }
            (known.push ⟨token, layout.line, opened.length, last⟩) after

def tokensOf (line : Nat) (chars : List Char) : Tokens :=
  tokensFrom (2 * chars.length + 2) true { line := line } #[] chars

end SqlScaffold.Expression
