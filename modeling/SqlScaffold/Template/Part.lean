import SqlScaffold.Source.Layout
import SqlScaffold.Value

/-!
Templates of generated sources. A template is a list of parts that are written one after the other
in a context of named values. Every name that is used has to be defined, and the first use of one
that is not ends the rendering.
-/

namespace SqlScaffold.Template

open Text Source

inductive Reference where
  | variable (name : String)
  | member (name field : String)
  deriving DecidableEq, Repr

inductive Width where
  | once (reference : Reference)
  | twice (reference : Reference)
  deriving DecidableEq, Repr

inductive Form where
  | plain
  | comment
  | literal
  | joined (separator : String)
  | indented (width : Width)
  deriving DecidableEq, Repr

inductive Part where
  | text (content : String)
  | write (reference : Reference) (form : Form)
  | choose (condition : Reference) (body otherwise : List Part)
  | each (name : String) (source : Reference) (body : List Part)

inductive RenderError where
  | undefinedVariable (name : String)
  | undefinedMember (owner field : String)
  | notIterable (kind : String)
  | noProduct (kind : String)
  | notCount (kind : String)
  | notLine (kind : String)
  | blanks (error : BlanksError)
  deriving DecidableEq, Repr

def RenderError.message : RenderError → String
  | undefinedVariable name => quoted name ++ " is undefined"
  | undefinedMember owner field => quoted owner ++ " has no attribute " ++ quoted field
  | notIterable kind => "'" ++ kind ++ "' object is not iterable"
  | noProduct kind => "unsupported operand type(s) for *: '" ++ kind ++ "' and 'int'"
  | notCount kind => "can't multiply sequence by non-int of type '" ++ kind ++ "'"
  | notLine kind => "'" ++ kind ++ "' object has no attribute 'strip'"
  | blanks error => error.message

def ownerName (value : Value) : String :=
  match value with
  | .null => "None"
  | other => other.kind ++ " object"

def Reference.value (context : Entries) : Reference → Except RenderError Value
  | .variable name =>
    match context.get? name with
    | some value => .ok value
    | none => .error (.undefinedVariable name)
  | .member name field =>
    match context.get? name with
    | none => .error (.undefinedVariable name)
    | some owner =>
      let found :=
        match owner with
        | .object entries => Entries.get? entries field
        | _ => none
      match found with
      | some value => .ok value
      | none => .error (.undefinedMember (ownerName owner) field)

def membersOf (value : Value) : Except RenderError (List Value) :=
  match value.members? with
  | some members => .ok members
  | none => .error (.notIterable value.kind)

/-- Twice a value; of a text or a list, the value behind itself. A number with a fraction is left as
it is, for no such number is a count. -/
def doubled (value : Value) : Except RenderError Value :=
  match value with
  | .int number => .ok (.int (number * 2))
  | .bool number => .ok (.int (if number then 2 else 0))
  | .text content => .ok (.text (content ++ content))
  | .list items => .ok (.list (items ++ items))
  | .float number => .ok (.float number)
  | other => .error (.noProduct other.kind)

def countOf (value : Value) : Except RenderError Nat :=
  match value with
  | .int number => (blankCount number).mapError .blanks
  | .bool number => .ok (if number then 1 else 0)
  | other => .error (.notCount other.kind)

def lineOf (value : Value) : Except RenderError String :=
  match value with
  | .text line => .ok line
  | other => .error (.notLine other.kind)

/-- The width that stands behind a reference. Only a product is formed at once; a value that is no
number of blanks is noticed where it is used. -/
def Width.value (context : Entries) : Width → Except RenderError (Except RenderError Value)
  | .once reference => .ok (reference.value context)
  | .twice reference => do
    let value ← reference.value context
    (doubled value).map .ok

def writeIndented (width : Except RenderError Value) (value : Value) : Except RenderError String := do
  let lines ←
    match value with
    | .text content => .ok ((splitAtChar '\n' content).map Value.text)
    | other => membersOf other
  let count ← width >>= countOf
  let written ← lines.mapM lineOf
  .ok (joinWith "\n" (indentLines count written))

def Form.write (context : Entries) (reference : Reference) : Form → Except RenderError String
  | .plain => (reference.value context).map Value.shown
  | .comment => (reference.value context).map fun value => lineComment "//" value.shown
  | .literal => (reference.value context).map fun value => sourceLiteral value.shown
  | .joined separator => do
    let members ← (← reference.value context) |> membersOf
    .ok (joinWith separator (members.map Value.shown))
  | .indented width => do
    let width ← width.value context
    let value ← reference.value context
    writeIndented width value

mutual

def Part.render (context : Entries) : Part → Except RenderError String
  | .text content => .ok content
  | .write reference form => form.write context reference
  | .choose condition body otherwise => do
    let value ← condition.value context
    if value.isTruthy then renderAll context body else renderAll context otherwise
  | .each name source body => do
    let members ← (← source.value context) |> membersOf
    let written ← members.mapM fun member => renderAll ((name, member) :: context) body
    .ok (joinWith "" written)

def renderAll (context : Entries) : List Part → Except RenderError String
  | [] => .ok ""
  | part :: rest => do
    let first ← part.render context
    let later ← renderAll context rest
    .ok (first ++ later)

end

end SqlScaffold.Template
