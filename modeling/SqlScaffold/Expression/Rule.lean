import SqlScaffold.Expression.Token
import SqlScaffold.Expression.Tree

/-!
Rules of a grammar. A rule offers choices that are tried in turn, a choice is a row of items, and
what its items yield is built into a tree, refused, or found to be a mistake.
-/

namespace SqlScaffold.Expression

inductive Rule where
  | whole
  | embedded
  | expressions
  | expression
  | plainExpression
  | yielding
  | starExpressions
  | starExpression
  | starMembers
  | starMember
  | binding
  | named
  | disjunction
  | conjunction
  | inversion
  | comparison
  | comparisonPair
  | equal
  | unequal
  | atMost
  | less
  | atLeast
  | greater
  | notWithin
  | within
  | notSame
  | same
  | bitOr
  | bitXor
  | bitAnd
  | shift
  | sum
  | term
  | factor
  | power
  | awaited
  | primary
  | slices
  | slice
  | atom
  | group
  | function
  | parameters
  | parameterList
  | slashPlain
  | slashDefault
  | starParameters
  | doubleStarParameter
  | plainParameter
  | defaultParameter
  | anyParameter
  | parameter
  | default
  | quotations
  | list
  | tuple
  | set
  | dict
  | entries
  | entry
  | pair
  | loops
  | loop
  | listLoop
  | setLoop
  | generator
  | dictLoop
  | arguments
  | argumentList
  | keywords
  | spread
  | keywordOrSpread
  | keywordOrMapping
  | targets
  | targetList
  | targetTuple
  | target
  | plainTarget
  | targetAtom
  | targetPrimary
  | targetAhead
  | wrongArguments
  | wrongKeyword
  | wrongCommand
  | wrongExpression
  | wrongNamed
  | wrongLoop
  | wrongDictLoop
  | wrongDefault
  | wrongParameters
  | wrongDefaults
  | wrongStar
  | wrongDoubleStar
  | wrongTarget
  | wrongGroup
  | wrongEntries
  | wrongEntry
  deriving DecidableEq, Hashable, Repr

namespace Rule

def isMistake : Rule → Bool
  | wrongArguments | wrongKeyword | wrongCommand | wrongExpression | wrongNamed | wrongLoop
  | wrongDictLoop | wrongDefault | wrongParameters | wrongDefaults | wrongStar | wrongDoubleStar
  | wrongTarget | wrongGroup | wrongEntries | wrongEntry => true
  | _ => false

def growsLeft : Rule → Bool
  | bitOr | bitXor | bitAnd | shift | sum | term | primary | targetPrimary => true
  | _ => false

def isFinal : Rule → Bool
  | expression | starExpression | disjunction | conjunction | inversion | factor | awaited
  | quotations | arguments | target | plainTarget | wrongNamed => true
  | rule => rule.growsLeft

end Rule

inductive Item where
  | text (text : String)
  | name
  | softName
  | number
  | quotation
  | lineBreak
  | finish
  | rule (rule : Rule)
  | choices (rule : Rule)
  | group (rows : List (List Item))
  | maybe (item : Item)
  | many (row : List Item)
  | some (item : Item)
  | separated (item : Item)
  | ahead (item : Item)
  | notAhead (item : Item)
  | cut

instance : Coe String Item := ⟨.text⟩
instance : Coe Rule Item := ⟨.rule⟩

inductive Node where
  | token (placed : PlacedToken)
  | tree (tree : Tree)
  | row (nodes : List Node)
  | nothing

namespace Node

mutual

def trees : Node → List Tree
  | .tree found => [found]
  | .row nodes => treesOf nodes
  | _ => []

def treesOf : List Node → List Tree
  | [] => []
  | first :: rest => first.trees ++ treesOf rest

end

end Node

def Node.ofRow : List Node → Node
  | [node] => node
  | nodes => .row nodes

/-- What becomes of the items of a choice. A choice that is refused ends its rule, and one that
failed says so in its own words. -/
inductive Reply where
  | node (node : Node)
  | refused
  | fault (fault : Fault)
  | failed (fault : Fault)

structure Surroundings where
  depth : Nat
  join : List PlacedToken → Except Fault Tree

structure Choice where
  items : List Item
  build : Surroundings → List Node → Reply

end SqlScaffold.Expression
