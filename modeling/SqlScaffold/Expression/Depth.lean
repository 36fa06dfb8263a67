import SqlScaffold.Expression.Tree

/-!
How deep expressions are. What is made of an expression goes as deep as it does, and there is an
end to that.
-/

namespace SqlScaffold.Expression

namespace Tree

mutual

def isDeeperThan : Nat → Tree → Bool
  | 0, _ => true
  | _, .name _ | _, .literal _ => false
  | room + 1, .unary _ part | room + 1, .member part _ | room + 1, .spread part
  | room + 1, .bound _ part | room + 1, .awaited part | room + 1, .delegated part =>
    isDeeperThan room part
  | room + 1, .keyword _ part | room + 1, .mapping part => isDeeperThan (room + 1) part
  | room + 1, .binary _ left right | room + 1, .subscript left right =>
    isDeeperThan room left || isDeeperThan room right
  | room + 1, .entry left right => isDeeperThan (room + 1) left || isDeeperThan (room + 1) right
  | room + 1, .comparison _ left others => isDeeperThan room left || areDeeperThan room others
  | room + 1, .choice body condition otherwise =>
    isDeeperThan room condition || isDeeperThan room body || isDeeperThan room otherwise
  | room + 1, .function parameters body =>
    areDeeperThan room parameters || isDeeperThan room body
  | room + 1, .comprehension _ element loops =>
    isDeeperThan room element || areDeeperThan room loops
  | room + 1, .loop _ target source conditions =>
    isDeeperThan (room + 1) target || isDeeperThan (room + 1) source ||
      areDeeperThan (room + 1) conditions
  | room + 1, .call callee arguments => isDeeperThan room callee || areDeeperThan room arguments
  | room + 1, .parameter _ parts => areDeeperThan (room + 1) parts
  | room + 1, .joined parts | room + 1, .chain parts | room + 1, .tuple parts
  | room + 1, .list parts | room + 1, .set parts | room + 1, .dict parts | room + 1, .slice parts
  | room + 1, .yielded parts => areDeeperThan room parts

def areDeeperThan : Nat → List Tree → Bool
  | _, [] => false
  | room, first :: rest => isDeeperThan room first || areDeeperThan room rest

end

def depthLimit : Nat := 2930

def depthMessage (task : String) : String := "maximum recursion depth exceeded during " ++ task

def isTooDeep (tree : Tree) : Bool := tree.isDeeperThan depthLimit

end Tree

end SqlScaffold.Expression
