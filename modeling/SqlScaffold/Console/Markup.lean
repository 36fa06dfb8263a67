import SqlScaffold.Console.Emoji
import SqlScaffold.Console.Handler
import SqlScaffold.Console.Style

/-!
Markup of console texts. A tag between brackets selects a style and is not printed; a backslash in
front of it makes it plain text. A closing tag has to close a tag that is open, by any name of its
style.
-/

namespace SqlScaffold.Console

open Number Text

inductive Piece where
  | plain (chars : List Char)
  | tag (position : Nat) (content : List Char)
  deriving DecidableEq, Repr

inductive MarkupError where
  | unmatched (content : String) (position : Nat)
  | nothingOpen (position : Nat)
  | handler (error : HandlerError)
  | number (error : IntegerError)
  deriving DecidableEq, Repr

def MarkupError.message : MarkupError → String
  | unmatched content position =>
    "closing tag '[" ++ content ++ "]' at position " ++ toString position ++
      " doesn't match any open tag"
  | nothingOpen position =>
    "closing tag '[/]' at position " ++ toString position ++ " has nothing to close"
  | handler error => error.message
  | number error => error.message

def startsTag (c : Char) : Bool :=
  (decide ('a' ≤ c) && decide (c ≤ 'z')) || c == '#' || c == '/' || c == '@'

def tagContent? (chars : List Char) : Option (List Char) :=
  match chars with
  | [] => none
  | c :: rest =>
    if startsTag c then
      let inside := rest.takeWhile fun other => other != '[' && other != ']'
      if (rest.drop inside.length).head? = some ']' then some (c :: inside) else none
    else none

def unescape : List Char → List Char
  | [] => []
  | '\\' :: '[' :: rest => '[' :: unescape rest
  | c :: rest => c :: unescape rest

/-- Takes a text apart. `held` is the plain text before the current place, last character first;
`slashes` backslashes follow it, and the next `skipped` characters belong to a tag. -/
def scan (position slashes skipped : Nat) (held : List Char) : List Char → List Piece
  | [] => [.plain (unescape (List.replicate slashes '\\' ++ held).reverse)]
  | c :: rest =>
    if 0 < skipped then scan (position + 1) slashes (skipped - 1) held rest
    else if c = '\\' then scan (position + 1) (slashes + 1) 0 held rest
    else
      let plain := List.replicate slashes '\\' ++ held
      if c = '[' then
        match tagContent? rest with
        | none => scan (position + 1) 0 0 (c :: plain) rest
        | some content =>
          let piece :=
            if slashes % 2 = 1 then .plain ('[' :: content ++ [']']) else .tag position content
          .plain (unescape held.reverse) :: .plain (List.replicate (slashes / 2) '\\') :: piece ::
            scan (position + 1) 0 (content.length + 1) [] rest
      else scan (position + 1) 0 0 (c :: plain) rest

def styleName (content : List Char) : String :=
  String.ofList (content.takeWhile (· != '='))

structure Span where
  start : Nat
  stop : Nat
  style : String
  deriving DecidableEq, Repr

structure StyledText where
  chars : List Char
  spans : List Span
  deriving DecidableEq, Repr

structure OpenTag where
  style : String
  parameters : Option String
  start : Nat
  deriving DecidableEq, Repr

def normalTag (name : String) : Except MarkupError String :=
  (normalStyle name).mapError .number

def OpenTag.ofContent (start : Nat) (content : List Char) : Except MarkupError OpenTag := do
  let style ← normalTag (styleName content)
  let parameters := (content.dropWhile (· != '=')).tail?.map String.ofList
  .ok ⟨style, parameters, start⟩

def OpenTag.isHandler (tag : OpenTag) : Bool := startsWith "@" tag.style

def OpenTag.check (tag : OpenTag) : Except MarkupError Unit :=
  let parameters := tag.parameters.getD ""
  if tag.isHandler && parameters != "" then (checkHandler parameters).mapError .handler
  else .ok ()

def OpenTag.spanTo (tag : OpenTag) (stop : Nat) : Span :=
  ⟨tag.start, stop, tag.style ++ (tag.parameters.map (" " ++ ·)).getD ""⟩

def OpenTag.close (tag : OpenTag) (stop : Nat) : Except MarkupError (List Span) := do
  tag.check
  .ok (if tag.isHandler then [] else [tag.spanTo stop])

def close? (name : String) : List OpenTag → Option (OpenTag × List OpenTag)
  | [] => none
  | tag :: rest =>
    if tag.style = name then some (tag, rest)
    else (close? name rest).map fun (found, others) => (found, tag :: others)

def isDropped (c : Char) : Bool := [7, 8, 11, 12, 13].contains c.toNat

def dropControls (chars : List Char) : List Char := chars.filter fun c => !isDropped c

def printedChars (chars : List Char) : List Char := dropControls (replaceEmojis chars)

def readPieces (place : Nat) (tags : List OpenTag) : List Piece → Except MarkupError StyledText
  | [] => .ok ⟨[], tags.map (·.spanTo place)⟩
  | .plain chars :: rest => do
    let printed := printedChars chars
    let behind ← readPieces (place + printed.length) tags rest
    .ok ⟨printed ++ behind.chars, behind.spans⟩
  | .tag position content :: rest =>
    match content with
    | '/' :: closing =>
      let name := trim (styleName closing)
      if name = "" then
        match tags with
        | [] => .error (.nothingOpen position)
        | tag :: outer => do
          let spans ← tag.close place
          let behind ← readPieces place outer rest
          .ok ⟨behind.chars, spans ++ behind.spans⟩
      else do
        let style ← normalTag name
        match close? style tags with
        | none => .error (.unmatched (String.ofList content) position)
        | some (tag, outer) => do
          let spans ← tag.close place
          let behind ← readPieces place outer rest
          .ok ⟨behind.chars, spans ++ behind.spans⟩
    | _ => do
      let tag ← OpenTag.ofContent place content
      readPieces place (tag :: tags) rest

/-- The text that a marked text prints. A part that starts earlier is drawn earlier, and of two
with the same start the one that is closed later. -/
def StyledText.read (marked : String) : Except MarkupError StyledText :=
  if marked.toList.contains '[' then do
    let text ← readPieces 0 [] (scan 0 0 0 [] marked.toList)
    .ok { text with spans := text.spans.reverse.mergeSort fun a b => decide (a.start ≤ b.start) }
  else .ok ⟨printedChars marked.toList, []⟩

def Span.check (span : Span) : Except MarkupError Unit :=
  match Style.read span.style with
  | .error (.number error) => .error (.number error)
  | _ => .ok ()

def StyledText.check (text : StyledText) : Except MarkupError Unit := text.spans.forM Span.check

end SqlScaffold.Console
