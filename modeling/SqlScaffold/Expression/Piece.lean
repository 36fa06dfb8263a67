import SqlScaffold.Expression.Escape
import SqlScaffold.Expression.Tree

/-!
Quotations with expressions between braces. An expression ends at its brace, or at a sign before a
conversion or a format; a format may hold expressions again, but these hold no further ones.
-/

namespace SqlScaffold.Expression

open Text

structure OpenQuote where
  quote : Char
  triple : Bool

def isTriple (quote : Char) (rest : List Char) : Bool :=
  rest.head? == some quote && rest[1]? == some quote

def isPieceEnd (c : Char) : Bool := c == '!' || c == ':' || c == '\x7d' || c == '='

def isPairedSign (c : Char) : Bool := c == '!' || c == '=' || c == '<' || c == '>'

def openFault? (quote : Option OpenQuote) (opened : List Char) : Option PieceFault :=
  if quote.isSome then some .openQuotation
  else opened.head?.map .unmatched

/-- Splits at the end of the expression at the start. `skipped` characters belong to the sign
before, and `opened` are the brackets that wait to be closed. -/
def splitPiece (skipped : Nat) (quote : Option OpenQuote) (opened : List Char) :
    List Char → Except PieceFault (List Char × List Char)
  | [] => .error ((openFault? quote opened).getD .noBrace)
  | c :: rest =>
    let keep (tail : Except PieceFault (List Char × List Char)) :=
      tail.map fun (inside, after) => (c :: inside, after)
    match skipped with
    | fewer + 1 => keep (splitPiece fewer quote opened rest)
    | 0 =>
      if c = '\\' then .error .backslash
      else
        match quote with
        | some open_ =>
          if c ≠ open_.quote then keep (splitPiece 0 quote opened rest)
          else if !open_.triple then keep (splitPiece 0 none opened rest)
          else if isTriple c rest then keep (splitPiece 2 none opened rest)
          else keep (splitPiece 0 quote opened rest)
        | none =>
          if isQuote c then
            if isTriple c rest then keep (splitPiece 2 (some ⟨c, true⟩) opened rest)
            else keep (splitPiece 0 (some ⟨c, false⟩) opened rest)
          else if (closingOf? c).isSome then
            if bracketLimit ≤ opened.length then .error .tooManyBrackets
            else keep (splitPiece 0 none (c :: opened) rest)
          else if c = '#' then .error .remark
          else if opened.isEmpty && isPairedSign c && rest.head? == some '=' then
            keep (splitPiece 1 none opened rest)
          else if opened.isEmpty && isPieceEnd c then .ok ([], c :: rest)
          else if isClosing c then
            match opened with
            | [] => .error (.unmatched c)
            | last :: outer =>
              if closingOf? last = some c then keep (splitPiece 0 none outer rest)
              else .error (.crossed last c)
          else keep (splitPiece 0 none opened rest)

/-- Splits a literal part off: its characters, what follows them, and whether a doubled brace ended
it. Braces are not doubled inside a format, and `named` holds inside the name of a character. -/
def splitLiteral (raw format named : Bool) :
    List Char → Except PieceFault (List Char × List Char × Bool)
  | [] => .ok ([], [], false)
  | c :: rest =>
    let keep (kept : List Char) (tail : Except PieceFault (List Char × List Char × Bool)) :=
      tail.map fun (inside, after, doubled) => (kept ++ inside, after, doubled)
    let atBrace (kept : List Char) (sign : Char) (behind : List Char) :=
      if !format && behind.head? == some sign then .ok (kept ++ [sign], behind.drop 1, true)
      else if !format && sign == '\x7d' then .error .loneBrace
      else .ok (kept, sign :: behind, false)
    if named then keep [c] (splitLiteral raw format (c != '\x7d') rest)
    else if c = '\x7b' ∨ c = '\x7d' then atBrace [] c rest
    else if c = '\\' ∧ raw = false then
      match rest with
      | [] => .ok (['\\'], [], false)
      | 'N' :: next :: later =>
        keep ['\\', 'N', next] (splitLiteral raw format (next == '\x7b') later)
      | next :: later =>
        if next = '\x7b' ∨ next = '\x7d' then atBrace ['\\'] next later
        else keep ['\\', next] (splitLiteral raw format false later)
    else keep [c] (splitLiteral raw format false rest)

def isPieceBlank (c : Char) : Bool := isSpace c || c == '\n'

def isShownBlank (c : Char) : Bool := isPieceBlank c || c.toNat == 11

def quotationOf (placed : PlacedToken) : Quotation :=
  match placed.token with
  | .quotation text => .ofToken text
  | _ => ⟨⟨false, false, false⟩, []⟩

structure PieceReader where
  read : Nat → List Char → Except Fault Tree
  embedded : Bool

namespace PieceReader

def fail {α : Type} (reader : PieceReader) (fault : Fault) : Except Fault α :=
  .error (fault.told reader.embedded)

def lift {α : Type} (reader : PieceReader) : Except PieceFault α → Except Fault α
  | .ok value => .ok value
  | .error fault => reader.fail (.piece fault)

def readPiece (reader : PieceReader) (line : Nat) (inside behind : List Char) :
    Except Fault Tree :=
  if inside.all isPieceBlank then
    match behind with
    | '\x7d' :: _ | [] => reader.fail (.piece .empty)
    | sign :: _ => reader.fail (.piece (.missing sign))
  else reader.read line ('(' :: inside ++ [')', '\n'])

end PieceReader

def skipShown (chars : List Char) : Except PieceFault (List Char) :=
  match chars with
  | '=' :: rest =>
    let after := rest.dropWhile isShownBlank
    if after.isEmpty then .error .noBrace else .ok after
  | _ => .ok chars

def skipConversion (chars : List Char) : Except PieceFault (List Char) :=
  match chars with
  | '!' :: [] => .error .noBrace
  | '!' :: letter :: rest =>
    if ['s', 'r', 'a'].contains letter then .ok rest else .error .badConversion
  | _ => .ok chars

def pieceLimit : Nat := 2

def lineBreaks (chars : List Char) : Nat := chars.count '\n'

namespace PieceReader

/-- Reads the expressions of a quotation, or of a format up to its closing brace. `level` counts
the formats around. -/
def readPieces (reader : PieceReader) (raw : Bool) :
    Nat → Nat → Nat → List Char → Except Fault (List Tree × List Char)
  | 0, _, _, _ => .error .tooDeep
  | fuel + 1, level, line, chars => do
    let (literal, after, doubled) ← reader.lift (splitLiteral raw (decide (0 < level)) false chars)
    match (if raw then none else textFault? 0 literal) with
    | some fault => reader.fail fault
    | none =>
      let lineAt (rest : List Char) := line + (lineBreaks chars - lineBreaks rest)
      if doubled then readPieces reader raw fuel level (lineAt after) after
      else
        match after with
        | [] => if level = 0 then .ok ([], []) else reader.fail (.piece .noBrace)
        | brace :: rest =>
          if brace = '\x7d' then .ok ([], after)
          else if pieceLimit ≤ level then reader.fail (.piece .nestedTooDeeply)
          else
            let (inside, behind) ← reader.lift (splitPiece 0 none [] rest)
            let tree ← reader.readPiece (lineAt after) inside behind
            let behind ← reader.lift (skipShown behind >>= skipConversion)
            let (inner, behind) ←
              match behind with
              | [':'] => reader.fail (.piece .noBrace)
              | ':' :: format => readPieces reader raw fuel (level + 1) (lineAt format) format
              | _ => .ok ([], behind)
            match behind with
            | '\x7d' :: behind =>
              let (trees, rest) ← readPieces reader raw fuel level (lineAt behind) behind
              .ok (tree :: inner ++ trees, rest)
            | _ => reader.fail (.piece .noBrace)

def piecesOf (reader : PieceReader) (raw : Bool) (line : Nat) (inside : List Char) :
    Except Fault (List Tree) :=
  (reader.readPieces raw (inside.length + 1) 0 line inside).map Prod.fst

def plainFault? (quotation : Quotation) : Option Fault :=
  if quotation.kind.binary then
    if quotation.inside.any fun c => decide (128 ≤ c.toNat) then some .foreignByte
    else if quotation.kind.raw then none
    else bytesFault? 0 quotation.inside
  else if quotation.kind.raw || quotation.kind.formatted then none
  else textFault? 0 quotation.inside

def partsOf (reader : PieceReader) (binary : Bool) : List PlacedToken → Except Fault (List Tree)
  | [] => .ok []
  | placed :: rest => do
    let quotation := quotationOf placed
    match plainFault? quotation with
    | some fault => reader.fail fault
    | none =>
      if quotation.kind.binary != binary then reader.fail .mixedQuotations
      else
        let trees ←
          if quotation.kind.formatted then
            reader.piecesOf quotation.kind.raw placed.line quotation.inside
          else .ok []
        let others ← reader.partsOf binary rest
        .ok (trees ++ others)

def join (reader : PieceReader) (placed : List PlacedToken) : Except Fault Tree :=
  let kinds := placed.map fun part => (quotationOf part).kind
  let binary := (kinds.head?.map QuotationKind.binary).getD false
  (reader.partsOf binary placed).map fun trees =>
    if binary then .literal .bytes
    else if kinds.any QuotationKind.formatted then .joined trees
    else .literal .text

end PieceReader

end SqlScaffold.Expression
