import Std.Data.HashMap
import SqlScaffold.Expression.Grammar

/-!
Reads tokens by the rules of a grammar. A reader keeps what rules found at a place, so that a place
is read once by each rule, and it goes through the tokens twice: the second time, which follows a
failure, it tries the rules for mistakes as well.
-/

namespace SqlScaffold.Expression

open Text

structure Input where
  tokens : Tokens
  embedded : Bool
  join : List PlacedToken → Except Fault Tree

structure Found where
  node : Option Node
  place : Nat

/-- How far a reader is. `reached` counts the tokens that were looked at. -/
structure Progress where
  place : Nat := 0
  reached : Nat := 0
  seeking : Bool := false
  known : Std.HashMap (Nat × Rule × Bool) Found := ∅

structure Failure where
  fault : Fault
  isFinal : Bool

abbrev Reader := EStateM Failure Progress

namespace Input

def told (input : Input) (fault : Fault) : Fault := fault.told input.embedded

def current (input : Input) : Reader PlacedToken := do
  let progress ← get
  match input.tokens.placed[progress.place]? with
  | some placed =>
    if progress.reached ≤ progress.place then
      set { progress with reached := progress.place + 1 }
    return placed
  | none =>
    match input.tokens.halt with
    | some (.broken fault) => throw ⟨fault, true⟩
    | some (.stopped fault _) => throw ⟨input.told fault, true⟩
    | none => throw ⟨input.told .unfitting, true⟩

def advance (node : Node) : Reader (Option Node) := do
  modify fun progress => { progress with place := progress.place + 1 }
  return some node

def readToken (input : Input) (item : Item) : Reader (Option Node) := do
  let placed ← input.current
  match item, placed.token with
  | .text text, .sign spelling => if text = spelling then advance (.token placed) else return none
  | .text text, .name spelling =>
    if text = spelling && isKeyword spelling then advance (.token placed) else return none
  | .name, .name spelling =>
    if isKeyword spelling then return none else advance (.tree (.name (normalForm spelling)))
  | .softName, .name spelling =>
    if !isKeyword spelling && startsSoftKeyword spelling then advance (.token placed)
    else return none
  | .number, .number spelling =>
    match Numeral.read spelling with
    | .ok value => advance (.tree (.literal (.number value)))
    | .error fault => throw ⟨input.told fault, false⟩
  | .quotation, .quotation _ => advance (.token placed)
  | .lineBreak, .lineBreak | .finish, .finish => advance (.token placed)
  | _, _ => return none

/-- Reads an item that takes no step downwards, or leaves it to `call`. -/
def readDirect (input : Input) (call : Item → Reader (Option Node)) (item : Item) :
    Reader (Option Node) :=
  match item with
  | .text _ | .name | .softName | .number | .quotation | .lineBreak | .finish =>
    input.readToken item
  | other => call other

def looksAt (input : Input) (call : Item → Reader (Option Node)) (item : Item) : Reader Bool := do
  let place := (← get).place
  let found ← input.readDirect call item
  modify fun progress => { progress with place := place }
  return found.isSome

def readRow (input : Input) (call : Item → Reader (Option Node)) :
    List Item → Bool → List Node → Reader (Option (List Node) × Bool)
  | [], bound, read => return (some read.reverse, bound)
  | item :: rest, bound, read => do
    match item with
    | .cut => input.readRow call rest true read
    | .ahead inner =>
      if ← input.looksAt call inner then input.readRow call rest bound read
      else return (none, bound)
    | .notAhead inner =>
      if ← input.looksAt call inner then return (none, bound)
      else input.readRow call rest bound read
    | .maybe inner => do
      let place := (← get).place
      match ← input.readDirect call inner with
      | some node => input.readRow call rest bound (node :: read)
      | none =>
        modify fun progress => { progress with place := place }
        input.readRow call rest bound (.nothing :: read)
    | other =>
      match ← input.readDirect call other with
      | some node => input.readRow call rest bound (node :: read)
      | none => return (none, bound)

def depthBehind (input : Input) : Reader Nat := do
  let place := (← get).place
  return ((input.tokens.placed[place - 1]?).map PlacedToken.depth).getD 0

def isMistake (choice : Choice) : Bool :=
  match choice.items with
  | [.rule rule] => rule.isMistake
  | _ => false

def readChoices (input : Input) (call : Item → Reader (Option Node)) (place : Nat) :
    List Choice → Reader (Option Node)
  | [] => return none
  | choice :: rest => do
    if isMistake choice && !(← get).seeking then input.readChoices call place rest
    else
      match ← input.readRow call choice.items false [] with
      | (some nodes, _) =>
        match choice.build ⟨← input.depthBehind, input.join⟩ nodes with
        | .node node => return some node
        | .refused => return none
        | .fault fault => throw ⟨input.told fault, false⟩
        | .failed fault => throw ⟨fault, fault == .tooDeep⟩
      | (none, bound) =>
        modify fun progress => { progress with place := place }
        if bound then return none else input.readChoices call place rest

def readGroup (input : Input) (call : Item → Reader (Option Node)) (place : Nat) :
    List (List Item) → Reader (Option Node)
  | [] => return none
  | row :: rest => do
    match ← input.readRow call row false [] with
    | (some nodes, _) => return some (.ofRow nodes)
    | (none, bound) =>
      modify fun progress => { progress with place := place }
      if bound then return none else input.readGroup call place rest

def readMany (input : Input) (call : Item → Reader (Option Node)) (row : List Item) :
    Nat → List Node → Reader (List Node)
  | 0, read => return read.reverse
  | fuel + 1, read => do
    let place := (← get).place
    match ← input.readRow call row false [] with
    | (some nodes, _) => input.readMany call row fuel (.ofRow nodes :: read)
    | (none, _) =>
      modify fun progress => { progress with place := place }
      return read.reverse

def keep (start : Nat) (rule : Rule) (seeking : Bool) (found : Found) : Reader Unit :=
  modify fun progress =>
    { progress with known := progress.known.insert (start, rule, seeking) found }

def grow (call : Item → Reader (Option Node)) (start : Nat) (rule : Rule) :
    Nat → Found → Reader (Option Node)
  | 0, found => return found.node
  | fuel + 1, found => do
    keep start rule false found
    modify fun progress => { progress with place := start }
    let node ← call (.choices rule)
    let place := (← get).place
    if node.isNone || place ≤ found.place then
      modify fun progress => { progress with place := found.place }
      return found.node
    else grow call start rule fuel ⟨node, place⟩

def readRule (input : Input) (call : Item → Reader (Option Node)) (rule : Rule) :
    Reader (Option Node) := do
  let progress ← get
  let start := progress.place
  let seeking := progress.seeking && !rule.isFinal
  match progress.known[(start, rule, seeking)]? with
  | some found =>
    set { progress with place := found.place }
    return found.node
  | none =>
    if rule.growsLeft then grow call start rule (input.tokens.placed.size + 1) ⟨none, start⟩
    else if rule = .plainExpression then
      set { progress with seeking := false }
      let node ← input.readChoices call start (choicesOf rule)
      modify fun later => { later with seeking := progress.seeking }
      return node
    else
      let node ← input.readChoices call start (choicesOf rule)
      keep start rule seeking ⟨node, (← get).place⟩
      return node

def read (input : Input) : Nat → Item → Reader (Option Node)
  | 0, _ => throw ⟨.tooDeep, true⟩
  | depth + 1, item => do
    let call := input.read depth
    let place := (← get).place
    let limit := input.tokens.placed.size + 1
    match item with
    | .rule rule => input.readRule call rule
    | .choices rule => input.readChoices call place (choicesOf rule)
    | .group rows => input.readGroup call place rows
    | .many row => return some (.row (← input.readMany call row limit []))
    | .some inner =>
      match ← input.readMany call [inner] limit [] with
      | [] => return none
      | nodes => return some (.row nodes)
    | .separated inner =>
      match ← input.readDirect call inner with
      | none => return none
      | some first =>
        let others ← call (.many [",", inner])
        return some (.row (first :: others.toList))
    | other => input.readDirect (fun _ => return none) other

def depthLimit : Nat := 6000

def lastReached? (input : Input) (progress : Progress) : Option PlacedToken :=
  input.tokens.placed[progress.reached - 1]?

/-- The fault that is told in the end: a token that is none counts more than what was found before
it, and so does a bracket that was left open in an earlier line. -/
def settle (input : Input) (progress : Progress) (fault : Fault) : Fault :=
  match input.tokens.halt with
  | some (.broken later) => later
  | some (.stopped _ (opened :: _)) =>
    if opened.line < ((input.lastReached? progress).map PlacedToken.line).getD 0 then
      input.told (.neverClosed opened.bracket)
    else fault
  | _ => fault

def tell (input : Input) (progress : Progress) (failure : Failure) : Fault :=
  let isOver := ((input.lastReached? progress).map PlacedToken.last).getD false
  if failure.isFinal || isOver then failure.fault else input.settle progress failure.fault

def tellUnfitting (input : Input) (first second : Progress) : Fault :=
  match (input.lastReached? first).map PlacedToken.token with
  | some .indent => input.told .indented
  | some .dedent => input.told .unindented
  | _ => input.settle second (input.told .unfitting)

def readAll (input : Input) (rule : Rule) : Except Fault Tree :=
  let start : Item := .rule rule
  match (input.read depthLimit start).run {} with
  | .ok (some node) _ => .ok (node.trees.headD (.literal .null))
  | .error failure progress => .error (input.tell progress failure)
  | .ok none first =>
    match (input.read depthLimit start).run { reached := first.reached, seeking := true } with
    | .error failure second => .error (input.tell second failure)
    | .ok _ second => .error (input.tellUnfitting first second)

end Input

end SqlScaffold.Expression
