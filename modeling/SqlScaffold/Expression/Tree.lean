import SqlScaffold.Expression.Numeral

/-!
Expressions as trees. Parts that are no expressions by themselves, such as the entries of a
dictionary or the loops of a comprehension, are trees as well.
-/

namespace SqlScaffold.Expression

inductive Literal where
  | null
  | truth (value : Bool)
  | ellipsis
  | number (value : Numeral)
  | text
  | bytes
  deriving DecidableEq, Repr

inductive Gathered where
  | list
  | set
  | dict
  | generator
  deriving DecidableEq, Repr

inductive Tree where
  | name (id : String)
  | literal (value : Literal)
  | joined (parts : List Tree)
  | unary (sign : String) (operand : Tree)
  | binary (sign : String) (left right : Tree)
  | comparison (sign : String) (left : Tree) (others : List Tree)
  | chain (parts : List Tree)
  | choice (body condition otherwise : Tree)
  | function (parameters : List Tree) (body : Tree)
  | parameter (name : String) (default : List Tree)
  | tuple (parts : List Tree)
  | list (parts : List Tree)
  | set (parts : List Tree)
  | dict (entries : List Tree)
  | entry (key value : Tree)
  | comprehension (kind : Gathered) (element : Tree) (loops : List Tree)
  | loop (isAsync : Bool) (target source : Tree) (conditions : List Tree)
  | call (function : Tree) (arguments : List Tree)
  | keyword (name : String) (value : Tree)
  | mapping (value : Tree)
  | member (owner : Tree) (id : String)
  | subscript (owner index : Tree)
  | slice (bounds : List Tree)
  | spread (value : Tree)
  | bound (name : String) (value : Tree)
  | awaited (value : Tree)
  | yielded (value : List Tree)
  | delegated (value : Tree)
  deriving Inhabited, Repr

namespace Tree

def kind : Tree → String
  | .member _ _ => "attribute"
  | .subscript _ _ => "subscript"
  | .spread _ => "starred"
  | .name _ => "name"
  | .list _ => "list"
  | .tuple _ => "tuple"
  | .function _ _ => "lambda"
  | .call _ _ => "function call"
  | .chain _ | .binary _ _ _ | .unary _ _ => "expression"
  | .comprehension .generator _ _ => "generator expression"
  | .comprehension .list _ _ => "list comprehension"
  | .comprehension .set _ _ => "set comprehension"
  | .comprehension .dict _ _ => "dict comprehension"
  | .yielded _ | .delegated _ => "yield expression"
  | .awaited _ => "await expression"
  | .dict _ => "dict literal"
  | .set _ => "set display"
  | .joined _ => "f-string expression"
  | .literal .null => "None"
  | .literal (.truth value) => if value then "True" else "False"
  | .literal .ellipsis => "ellipsis"
  | .literal _ => "literal"
  | .comparison _ _ _ => "comparison"
  | .choice _ _ _ => "conditional expression"
  | .bound _ _ => "named expression"
  | _ => ""

mutual

/-- The first part of a loop's target that no value can be given to. A loop is read as a
comparison as far as its source, so that the target is what stands before the word `in`. -/
def unassignable? : Tree → Option Tree
  | .list parts | .tuple parts => unassignableAmong? parts
  | .spread value => unassignable? value
  | .comparison sign left _ => if sign = "in" then unassignable? left else none
  | .name _ | .subscript _ _ | .member _ _ => none
  | other => some other

def unassignableAmong? : List Tree → Option Tree
  | [] => none
  | first :: rest => (unassignable? first).or (unassignableAmong? rest)

end

end Tree

end SqlScaffold.Expression
