import SqlScaffold.Expression.Tree

/-!
Plain values: constants, collections of plain values, and numbers with a sign or with an imaginary
part. Members of sets and keys of dictionaries have to be hashable.
-/

namespace SqlScaffold.Expression

inductive ValueFault where
  | computed
  | spread
  | unhashable (kind : String)
  | tooLarge
  deriving DecidableEq, Repr

def ValueFault.message : ValueFault → String
  | computed => "malformed node or string"
  | spread => "malformed node or string: None"
  | unhashable kind => "unhashable type: '" ++ kind ++ "'"
  | tooLarge => "int too large to convert to float"

def fractionLimit : Nat := Nat.pow 2 1024 - Nat.pow 2 970

namespace Tree

def signedNumber? : Tree → Option Numeral
  | .literal (.number value) => some value
  | .unary sign (.literal (.number value)) =>
    if sign = "+" ∨ sign = "-" then some value else none
  | _ => none

def complexFault? (sign : String) (left right : Tree) : Option ValueFault :=
  match left.signedNumber?, right with
  | some real, .literal (.number .imaginary) =>
    if sign ≠ "+" ∧ sign ≠ "-" then some .computed
    else
      match real with
      | .imaginary => some .computed
      | .fraction => none
      | .whole value => if fractionLimit ≤ value then some .tooLarge else none
  | _, _ => some .computed

mutual

def plain : Tree → Except ValueFault (Option String)
  | .literal _ => .ok none
  | .tuple parts => (plainAll parts).map fun kinds => kinds.findSome? id
  | .list parts => (plainAll parts).map fun _ => some "list"
  | .set parts => (plainMembers parts).map fun _ => some "set"
  | .call (.name id) [] => if id = "set" then .ok (some "set") else .error .computed
  | .dict entries => (plainMembers entries).map fun _ => some "dict"
  | .entry key value => do
    let kind ← plain key
    let _ ← plain value
    .ok kind
  | .mapping _ => .error .spread
  | .binary sign left right =>
    match complexFault? sign left right with
    | some fault => .error fault
    | none => .ok none
  | other => if other.signedNumber?.isSome then .ok none else .error .computed

def plainAll : List Tree → Except ValueFault (List (Option String))
  | [] => .ok []
  | first :: rest => do
    let kind ← plain first
    let kinds ← plainAll rest
    .ok (kind :: kinds)

def plainMembers : List Tree → Except ValueFault Unit
  | [] => .ok ()
  | first :: rest => do
    match ← plain first with
    | some kind => .error (.unhashable kind)
    | none => plainMembers rest

end

def valueFault? (tree : Tree) : Option ValueFault :=
  match tree.plain with
  | .ok _ => none
  | .error fault => some fault

end Tree

end SqlScaffold.Expression
