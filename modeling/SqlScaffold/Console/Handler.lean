import SqlScaffold.Expression.Depth
import SqlScaffold.Expression.Parse
import SqlScaffold.Expression.Value
import SqlScaffold.Text.Word

/-!
Handlers in markup. A tag whose name starts with an at sign calls a handler: a name that may be
left out, and arguments between parentheses that may be left out too. The arguments are plain
values.
-/

namespace SqlScaffold.Console

open Text

inductive ArgumentFault where
  | expression (fault : Expression.Fault)
  | value (fault : Expression.ValueFault)
  | nullCharacter
  | unwieldy
  deriving DecidableEq, Repr

structure HandlerError where
  arguments : String
  written : String
  fault : ArgumentFault
  deriving DecidableEq, Repr

def HandlerError.message (error : HandlerError) : String :=
  let start := "error parsing "
  match error.fault with
  | .expression .tooDeep => start ++ quoted error.written ++ "; " ++ Expression.Fault.tooDeep.message
  | .expression fault =>
    start ++ quoted error.arguments ++ " in " ++ quoted error.written ++ "; " ++ fault.message
  | .value fault => start ++ quoted error.written ++ "; " ++ fault.message
  | .nullCharacter =>
    start ++ quoted error.written ++ "; source code string cannot contain null bytes"
  | .unwieldy =>
    start ++ quoted error.written ++ "; " ++ Expression.Tree.depthMessage "ast construction"

def inHandlerName (c : Char) : Bool := isWordChar c || c == '.'

def handlerArguments (written : String) : String :=
  let behind := written.toList.dropWhile inHandlerName
  if behind.isEmpty then "()"
  else if behind.head? = some '(' ∧ behind.getLast? = some ')' ∧ ¬ behind.contains '\n' then
    String.ofList behind
  else written

def argumentFault? (text : String) : Option ArgumentFault :=
  if text.toList.contains (Char.ofNat 0) then some .nullCharacter
  else
    match Expression.read (Expression.trimStart text) with
    | .error fault => some (.expression fault)
    | .ok tree => if tree.isTooDeep then some .unwieldy else tree.valueFault?.map .value

def checkHandler (written : String) : Except HandlerError Unit :=
  let arguments := handlerArguments (trim written)
  match argumentFault? arguments with
  | some fault => .error ⟨arguments, written, fault⟩
  | none => .ok ()

end SqlScaffold.Console
