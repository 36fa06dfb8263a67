import SqlScaffold.Expression.Depth
import SqlScaffold.Expression.Piece
import SqlScaffold.Expression.Reader
import SqlScaffold.Expression.Scope

/-!
Expressions in texts. An expression between the braces of a quotation is read like any other one,
from a shorter text. A text that refers to a type has to be an expression in which all names can be
bound.
-/

namespace SqlScaffold.Expression

open Text

/-- Reads an expression whose first line has the given number. `fuel` exceeds the number of
quotations around any expression in it. -/
def readFrom : Nat → Bool → Nat → List Char → Except Fault Tree
  | 0, _, _, _ => .error .tooDeep
  | fuel + 1, embedded, line, chars =>
    let input : Input :=
      { tokens := tokensOf line chars
        embedded := embedded
        join := PieceReader.join ⟨readFrom fuel true, embedded⟩ }
    input.readAll (if embedded then .embedded else .whole)

def read (text : String) : Except Fault Tree :=
  let chars := unifyNewlines text.toList
  readFrom (chars.length + 1) false 1 chars

def trimStart (text : String) : String :=
  String.ofList (text.toList.dropWhile fun c => c == ' ' || c == '\t')

inductive ReferenceFault where
  | notExpression
  | tooDeep
  | unwieldy
  deriving DecidableEq, Repr

def referenceFault? (text : String) : Option ReferenceFault :=
  match read (if Text.startsWith "*" text then "(" ++ text ++ ",)[0]" else text) with
  | .ok tree =>
    if tree.isTooDeep then some .unwieldy
    else if tree.isWellScoped then none
    else some .notExpression
  | .error .tooDeep => some .tooDeep
  | .error _ => some .notExpression

end SqlScaffold.Expression
