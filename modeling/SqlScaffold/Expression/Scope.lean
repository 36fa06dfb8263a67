import SqlScaffold.Expression.Tree

/-!
Where names of an expression are bound. A function and a comprehension are scopes of their own; a
name that is bound inside a comprehension belongs to the scope around it, so it may be none that the
comprehension runs over. Some expressions are only allowed in one kind of scope.
-/

namespace SqlScaffold.Expression

inductive ScopeKind where
  | whole
  | function
  | comprehension
  deriving DecidableEq

structure Scope where
  kind : ScopeKind
  inTarget : Bool := false
  inSource : Bool := false
  outer : List String := []
  looped : List String := []
  waits : Bool := false

abbrev ScopeReader := StateT (List Scope) Option

namespace Scope

def fixedName : String := "__debug__"

def require (condition : Bool) : ScopeReader Unit := if condition then pure () else failure

def innermost : ScopeReader Scope := do
  match ← get with
  | scope :: _ => return scope
  | [] => failure

def change (update : Scope → Scope) : ScopeReader Unit := do
  match ← get with
  | scope :: outer => set (update scope :: outer)
  | [] => failure

def inside (kind : ScopeKind) (body : ScopeReader Unit) : ScopeReader Scope := do
  let scope ← innermost
  modify (Scope.mk kind false scope.inSource [] [] false :: ·)
  body
  let inner ← innermost
  modify List.tail
  return inner

def note (name : String) : ScopeReader Unit := do
  let scope ← innermost
  if scope.inTarget then
    require (!scope.outer.contains name)
    change fun scope => { scope with looped := name :: scope.looped }

def bind (name : String) : ScopeReader Unit := do
  let scope ← innermost
  require (name != fixedName && !scope.inSource)
  if scope.kind = .comprehension then
    let around := (← get).takeWhile fun scope => scope.kind == .comprehension
    require (!scope.inTarget && !around.any fun scope => scope.looped.contains name)
    change fun scope => { scope with outer := name :: scope.outer }

def asTarget (body : ScopeReader Unit) : ScopeReader Unit := do
  change fun scope => { scope with inTarget := true }
  body
  change fun scope => { scope with inTarget := false }

def asSource (body : ScopeReader Unit) : ScopeReader Unit := do
  let inSource := (← innermost).inSource
  change fun scope => { scope with inSource := true }
  body
  change fun scope => { scope with inSource := inSource }

def wait : ScopeReader Unit := change fun scope => { scope with waits := true }

end Scope

namespace Tree

open Scope

def isSpread : Tree → Bool
  | .spread _ => true
  | _ => false

def spreadLimit : Nat := 256

def spreadsOnce (targets : List Tree) : Bool :=
  let behind := targets.dropWhile fun target => !target.isSpread
  behind.isEmpty ||
    (targets.length - behind.length < spreadLimit && !(behind.drop 1).any isSpread)

def names (trees : List Tree) : List String :=
  trees.filterMap fun tree =>
    match tree with
    | .parameter id _ | .keyword id _ => some id
    | _ => none

def areDistinct : List String → Bool
  | [] => true
  | first :: rest => first != fixedName && !rest.contains first && areDistinct rest

mutual

def bindNames : Tree → ScopeReader Unit
  | .name id => note id
  | .literal _ => pure ()
  | .joined parts | .chain parts | .tuple parts | .list parts | .set parts | .dict parts
  | .slice parts => bindAll parts
  | .unary _ operand => bindNames operand
  | .binary _ left right => do
    bindNames left
    bindNames right
  | .comparison _ left others => do
    bindNames left
    bindAll others
  | .choice body condition otherwise => do
    bindNames condition
    bindNames body
    bindNames otherwise
  | .function parameters body => do
    require (areDistinct (names parameters))
    bindAll parameters
    let _ ← inside .function (bindNames body)
  | .parameter _ default => bindAll default
  | .entry key value => do
    bindNames key
    bindNames value
  | .comprehension kind element loops => do
    bindFirstSource loops
    let inner ← inside .comprehension do
      bindLoops true loops
      bindNames element
    if inner.waits && kind != .generator then
      require ((← innermost).kind == .comprehension)
      wait
  | .loop _ _ _ _ => failure
  | .call callee arguments => do
    require (areDistinct (names arguments))
    bindNames callee
    bindAll arguments
  | .keyword _ value | .mapping value | .spread value => bindNames value
  | .member owner _ => bindNames owner
  | .subscript owner index => do
    bindNames owner
    bindNames index
  | .bound id value => do
    Scope.bind id
    bindNames value
  | .awaited value => do
    require ((← innermost).kind == .comprehension)
    bindNames value
    wait
  | .yielded value => do
    require ((← innermost).kind == .function)
    bindAll value
  | .delegated value => do
    require ((← innermost).kind == .function)
    bindNames value

def bindAll : List Tree → ScopeReader Unit
  | [] => pure ()
  | first :: rest => do
    bindNames first
    bindAll rest

def bindFirstSource : List Tree → ScopeReader Unit
  | .loop _ _ source _ :: _ => asSource (bindNames source)
  | _ => failure

def bindLoops (isFirst : Bool) : List Tree → ScopeReader Unit
  | [] => pure ()
  | .loop isAsync target source conditions :: rest => do
    asTarget (bindTarget target)
    if !isFirst then asSource (bindNames source)
    bindAll conditions
    if isAsync then wait
    bindLoops false rest
  | _ => failure

def bindTarget : Tree → ScopeReader Unit
  | .name id => do
    require (id != fixedName)
    note id
  | .member owner id => do
    require (id != fixedName)
    bindNames owner
  | .subscript owner index => do
    bindNames owner
    bindNames index
  | .tuple parts | .list parts => do
    require (spreadsOnce parts)
    bindTargets parts
  | _ => failure

def bindTargets : List Tree → ScopeReader Unit
  | [] => pure ()
  | .spread value :: rest => do
    bindTarget value
    bindTargets rest
  | first :: rest => do
    bindTarget first
    bindTargets rest

end

def isWellScoped (tree : Tree) : Bool :=
  (tree.bindNames.run [Scope.mk .whole false false [] [] false]).isSome

end Tree

end SqlScaffold.Expression
