import SqlScaffold.Expression.Rule
import SqlScaffold.Text.Normal

/-!
The grammar of expressions. Choices are tried in turn, so that longer forms stand before shorter
ones, and rules for mistakes stand where the mistake would be made.
-/

namespace SqlScaffold.Expression

open Text

def keywords : List String :=
  ["False", "None", "True", "and", "as", "assert", "async", "await", "break", "class", "continue",
    "def", "del", "elif", "else", "except", "finally", "for", "from", "global", "if", "import",
    "in", "is", "lambda", "nonlocal", "not", "or", "pass", "raise", "return", "try", "while",
    "with", "yield"]

def isKeyword (text : String) : Bool := keywords.contains text

def softKeywords : List String := ["_", "case", "match"]

def startsSoftKeyword (text : String) : Bool :=
  softKeywords.any fun word => text.toList.isPrefixOf word.toList

namespace Build

abbrev Builder := Surroundings → List Node → Reply

def pass : Builder := fun _ nodes => .node (.ofRow nodes)

def tree (make : List Tree → Tree) : Builder := fun _ nodes =>
  .node (.tree (make (Node.treesOf nodes)))

def trees : Builder := fun _ nodes => .node (.row ((Node.treesOf nodes).map .tree))

def inner : Builder := tree fun trees => trees.headD (.literal .null)

def mistake (kind : Mistake) : Builder := fun _ _ => .fault (.mistake kind)

def naming (fault : String → Fault) : Builder := fun _ nodes =>
  match Node.treesOf nodes with
  | first :: _ => .fault (fault first.kind)
  | [] => .refused

def Node.spelling : Node → String
  | .token placed =>
    match placed.token with
    | .name text | .sign text => text
    | _ => ""
  | _ => ""

def operation : Builder := fun _ nodes =>
  match nodes with
  | [.tree left, sign, .tree right] => .node (.tree (.binary (Node.spelling sign) left right))
  | [sign, .tree operand] => .node (.tree (.unary (Node.spelling sign) operand))
  | _ => .refused

def comparison : Builder := fun _ nodes =>
  match nodes with
  | [.tree left, .row (.row (sign :: first) :: others)] =>
    .node (.tree (.comparison (Node.spelling sign) left
      (Node.treesOf first ++ Node.treesOf others)))
  | _ => .refused

def compared : Builder := fun _ nodes =>
  match nodes with
  | [sign, right] => .node (.row [sign, right])
  | _ => .node (.row (.nothing :: nodes.drop 2))

def choice : Builder := tree fun trees =>
  match trees with
  | [body, condition, otherwise] => .choice body condition otherwise
  | _ => .literal .null

def bound : Builder := tree fun trees =>
  match trees with
  | [.name name, value] => .bound name value
  | _ => .literal .null

def call : Builder := tree fun trees =>
  match trees with
  | function :: arguments => .call function arguments
  | [] => .literal .null

def member : Builder := tree fun trees =>
  match trees with
  | [owner, .name id] => .member owner id
  | _ => .literal .null

def subscript : Builder := tree fun trees =>
  match trees with
  | [owner, index] => .subscript owner index
  | _ => .literal .null

def keyword : Builder := tree fun trees =>
  match trees with
  | [.name name, value] => .keyword name value
  | _ => .literal .null

def around (make : Tree → Tree) : Builder := tree fun trees =>
  make (trees.headD (.literal .null))

def pair : Builder := tree fun trees =>
  match trees with
  | [key, value] => .entry key value
  | _ => .literal .null

def parameter : Builder := tree fun trees =>
  match trees with
  | .name name :: _ => .parameter name []
  | .parameter name _ :: default => .parameter name default
  | _ => .literal .null

def function : Builder := tree fun trees =>
  .function trees.dropLast (trees.getLast?.getD (.literal .null))

def comprehension (kind : Gathered) : Builder := tree fun trees =>
  match trees with
  | element :: loops => .comprehension kind element loops
  | [] => .literal .null

def loop (isAsync : Bool) : Builder := tree fun trees =>
  match trees with
  | target :: source :: conditions => .loop isAsync target source conditions
  | _ => .literal .null

def literal (value : Literal) : Builder := fun _ _ => .node (.tree (.literal value))

def placedToken? : Node → Option PlacedToken
  | .token placed => some placed
  | _ => none

def quotations : Builder := fun surroundings nodes =>
  match nodes with
  | [.row parts] =>
    match surroundings.join (parts.filterMap placedToken?) with
    | .ok found => .node (.tree found)
    | .error fault => .failed fault
  | _ => .refused

def isCommand : Tree → Bool
  | .name id => id == "print" || id == "exec"
  | _ => false

def sideBySide : Builder := fun surroundings nodes =>
  match Node.treesOf nodes with
  | first :: _ =>
    if isCommand first || surroundings.depth == 0 then .refused
    else .fault (.mistake .missingComma)
  | [] => .refused

def command : Builder := fun _ nodes =>
  match Node.treesOf nodes with
  | .name id :: _ => if isCommand (.name id) then .fault (.command id) else .refused
  | _ => .refused

def isByName : Tree → Bool
  | .keyword _ _ | .mapping _ => true
  | _ => false

def isMapping : Tree → Bool
  | .mapping _ => true
  | _ => false

def argumentsOf (nodes : List Node) : List Tree :=
  match nodes with
  | first :: _ => first.trees
  | [] => []

def looseLoop : Builder := fun _ nodes =>
  if 1 < ((argumentsOf nodes).filter fun argument => !isByName argument).length then
    .fault (.mistake .bareLoop)
  else .refused

def misplaced : Builder := fun _ nodes =>
  .fault (.mistake
    (if (argumentsOf nodes).any isMapping then .placeBehindSpread else .placeBehindNames))

def target : Builder := fun _ nodes =>
  match (Node.treesOf nodes).head?.bind Tree.unassignable? with
  | some part => .fault (.assigned part.kind)
  | none => .refused

def constantName : Builder := fun _ nodes =>
  match nodes with
  | constant :: _ => .fault (.assigned (Node.spelling constant))
  | [] => .refused

end Build

open Build

def listed (item : Item) : List Choice :=
  [⟨[item, .some (.group [[",", item]]), .maybe ","], Build.tree .tuple⟩,
    ⟨[item, ","], Build.tree .tuple⟩,
    ⟨[item], pass⟩]

def fromLeft (rule operand : Rule) (signs : List String) : List Choice :=
  signs.map (fun sign => ⟨[.rule rule, sign, .rule operand], operation⟩) ++
    [⟨[.rule operand], pass⟩]

def compareBy (words : List String) : List Choice :=
  [⟨words.map Item.text ++ [.rule .bitOr], compared⟩]

def placedArgument : List (List Item) := [[.rule .binding], [.rule .expression, .notAhead ":="]]

def parameterForms (items : List Item) : List Choice :=
  [⟨items ++ [.text ","], Build.parameter⟩, ⟨items ++ [.ahead ":"], Build.parameter⟩]

def openBracket : List (List Item) := [["["], ["("], ["\x7b"]]

def squareOrBrace : List (List Item) := [["["], ["\x7b"]]

def slashForms : List (List Item) := [[.rule .slashPlain], [.rule .slashDefault]]

def mistakesOf : Rule → List Choice
  | .wrongArguments =>
    [⟨[.rule .argumentList, ",", "*"], mistake .spreadBehindNames⟩,
      ⟨[.rule .expression, .rule .loops, ",",
          .maybe (.group [[.rule .argumentList], [.rule .expression, .rule .loops]])],
        mistake .bareLoop⟩,
      ⟨[.name, "=", .rule .expression, .rule .loops], mistake .equalsSign⟩,
      ⟨[.rule .argumentList, .rule .loops], looseLoop⟩,
      ⟨[.rule .argumentList, ",", .rule .expression, .rule .loops], mistake .bareLoop⟩,
      ⟨[.rule .argumentList, ",", .rule .argumentList], misplaced⟩]
  | .wrongKeyword =>
    [⟨[.group [["True"], ["False"], ["None"]], "="], constantName⟩,
      ⟨[.name, "=", .rule .expression, .rule .loops], mistake .equalsSign⟩,
      ⟨[.notAhead (.group [[.name, "="]]), .rule .expression, "="], mistake .assignedArgument⟩]
  | .wrongCommand => [⟨[.name, .notAhead "(", .rule .starExpressions], command⟩]
  | .wrongExpression =>
    [⟨[.notAhead (.group [[.name, .quotation], [.softName]]), .rule .disjunction,
        .rule .plainExpression], sideBySide⟩,
      ⟨[.rule .disjunction, "if", .rule .disjunction, .notAhead (.group [["else"], [":"]])],
        mistake .missingElse⟩]
  | .wrongNamed =>
    [⟨[.rule .expression, ":=", .rule .expression], naming .bound⟩,
      ⟨[.name, "=", .rule .bitOr, .notAhead (.group [["="], [":="]])], mistake .equalsSign⟩,
      ⟨[.notAhead (.group [[.rule .list], [.rule .tuple], [.rule .generator], ["True"], ["None"],
          ["False"]]), .rule .bitOr, "=", .rule .bitOr, .notAhead (.group [["="], [":="]])],
        naming .assignedHere⟩]
  | .wrongLoop =>
    [⟨[.group openBracket, .rule .spread, .rule .loops], mistake .spreadInLoop⟩,
      ⟨[.group squareOrBrace, .rule .starMember, ",", .rule .starMembers, .rule .loops],
        mistake .bareLoopTarget⟩,
      ⟨[.group squareOrBrace, .rule .starMember, ",", .rule .loops], mistake .bareLoopTarget⟩]
  | .wrongDictLoop => [⟨["\x7b", "**", .rule .bitOr, .rule .loops, "\x7d"], mistake .mappingInLoop⟩]
  | .wrongDefault => [⟨["=", .ahead (.group [[")"], [","]])], mistake .missingDefault⟩]
  | .wrongParameters =>
    [⟨[.many [.rule .plainParameter], .rule .wrongDefaults, .rule .plainParameter],
        mistake .defaultBefore⟩,
      ⟨[.many [.rule .plainParameter], "(", .separated (.rule .parameter), .maybe ",", ")"],
        mistake .parametersInBrackets⟩,
      ⟨["/", ","], mistake .slashFirst⟩,
      ⟨[.group slashForms, .many [.rule .anyParameter], "/"], mistake .slashTwice⟩,
      ⟨[.maybe (.group slashForms), .many [.rule .anyParameter], "*",
          .group [[","], [.rule .plainParameter]], .many [.rule .anyParameter], "/"],
        mistake .slashBehindStar⟩,
      ⟨[.some (.rule .anyParameter), "/", "*"], mistake .slashBesideStar⟩]
  | .wrongDefaults =>
    [⟨[.rule .slashDefault], pass⟩, ⟨[.some (.rule .defaultParameter)], pass⟩]
  | .wrongStar =>
    [⟨["*", .group [[":"], [",", .group [[":"], ["**"]]]]], mistake .nothingBehindStar⟩,
      ⟨["*", .rule .parameter, "="], mistake .starDefault⟩,
      ⟨["*", .group [[.rule .plainParameter], [","]], .many [.rule .anyParameter], "*",
          .group [[.rule .plainParameter], [","]]], mistake .starTwice⟩]
  | .wrongDoubleStar =>
    [⟨["**", .rule .parameter, "="], mistake .doubleStarDefault⟩,
      ⟨["**", .rule .parameter, ",", .rule .parameter], mistake .behindDoubleStar⟩,
      ⟨["**", .rule .parameter, ",", .group [["*"], ["**"], ["/"]]], mistake .behindDoubleStar⟩]
  | .wrongTarget => [⟨[.maybe "async", "for", .rule .starExpressions], Build.target⟩]
  | .wrongGroup =>
    [⟨["(", .rule .spread, ")"], mistake .spreadHere⟩,
      ⟨["(", "**", .rule .expression, ")"], mistake .mappingHere⟩]
  | .wrongEntries =>
    [⟨[.separated (.rule .entry), ",", .rule .wrongEntry], pass⟩,
      ⟨[.rule .expression, ":", "*", .rule .bitOr], mistake .spreadValue⟩,
      ⟨[.rule .expression, ":", .ahead (.group [["\x7d"], [","]])], mistake .missingValue⟩]
  | .wrongEntry =>
    [⟨[.rule .expression, .notAhead ":"], mistake .missingColon⟩,
      ⟨[.rule .expression, ":", "*", .rule .bitOr], mistake .spreadValue⟩,
      ⟨[.rule .expression, ":", .ahead (.group [["\x7d"], [","]])], mistake .missingValue⟩]
  | _ => []

def functionChoices : Rule → List Choice
  | .function => [⟨["lambda", .maybe (.rule .parameters), ":", .rule .expression], Build.function⟩]
  | .parameters => [⟨[.rule .wrongParameters], pass⟩, ⟨[.rule .parameterList], trees⟩]
  | .parameterList =>
    [⟨[.rule .slashPlain, .many [.rule .plainParameter], .many [.rule .defaultParameter],
        .maybe (.rule .starParameters)], trees⟩,
      ⟨[.rule .slashDefault, .many [.rule .defaultParameter], .maybe (.rule .starParameters)],
        trees⟩,
      ⟨[.some (.rule .plainParameter), .many [.rule .defaultParameter],
        .maybe (.rule .starParameters)], trees⟩,
      ⟨[.some (.rule .defaultParameter), .maybe (.rule .starParameters)], trees⟩,
      ⟨[.rule .starParameters], trees⟩]
  | .slashPlain =>
    [⟨[.some (.rule .plainParameter), "/", ","], trees⟩,
      ⟨[.some (.rule .plainParameter), "/", .ahead ":"], trees⟩]
  | .slashDefault =>
    [⟨[.many [.rule .plainParameter], .some (.rule .defaultParameter), "/", ","], trees⟩,
      ⟨[.many [.rule .plainParameter], .some (.rule .defaultParameter), "/", .ahead ":"], trees⟩]
  | .starParameters =>
    [⟨[.rule .wrongStar], pass⟩,
      ⟨["*", .rule .plainParameter, .many [.rule .anyParameter],
        .maybe (.rule .doubleStarParameter)], trees⟩,
      ⟨["*", ",", .some (.rule .anyParameter), .maybe (.rule .doubleStarParameter)], trees⟩,
      ⟨[.rule .doubleStarParameter], trees⟩]
  | .doubleStarParameter =>
    [⟨[.rule .wrongDoubleStar], pass⟩, ⟨["**", .rule .plainParameter], trees⟩]
  | .plainParameter => parameterForms [.rule .parameter]
  | .defaultParameter => parameterForms [.rule .parameter, .rule .default]
  | .anyParameter => parameterForms [.rule .parameter, .maybe (.rule .default)]
  | .parameter => [⟨[.name], Build.parameter⟩]
  | .default => [⟨["=", .rule .expression], inner⟩, ⟨[.rule .wrongDefault], pass⟩]
  | _ => []

def targetChoices : Rule → List Choice
  | .targets =>
    [⟨[.rule .target, .notAhead ","], pass⟩,
      ⟨[.rule .target, .many [.group [[",", .rule .target]]], .maybe ","], Build.tree .tuple⟩]
  | .targetList => [⟨[.separated (.rule .target), .maybe ","], trees⟩]
  | .targetTuple =>
    [⟨[.rule .target, .some (.group [[",", .rule .target]]), .maybe ","], trees⟩,
      ⟨[.rule .target, ","], trees⟩]
  | .target =>
    [⟨["*", .group [[.notAhead "*", .rule .target]]], around .spread⟩,
      ⟨[.rule .plainTarget], pass⟩]
  | .plainTarget =>
    [⟨[.rule .targetPrimary, ".", .name, .notAhead (.rule .targetAhead)], Build.member⟩,
      ⟨[.rule .targetPrimary, "[", .rule .slices, "]", .notAhead (.rule .targetAhead)],
        Build.subscript⟩,
      ⟨[.rule .targetAtom], pass⟩]
  | .targetAtom =>
    [⟨[.name], pass⟩,
      ⟨["(", .rule .plainTarget, ")"], inner⟩,
      ⟨["(", .maybe (.rule .targetTuple), ")"], Build.tree .tuple⟩,
      ⟨["[", .maybe (.rule .targetList), "]"], Build.tree .list⟩]
  | .targetPrimary =>
    [⟨[.rule .targetPrimary, ".", .name, .ahead (.rule .targetAhead)], Build.member⟩,
      ⟨[.rule .targetPrimary, "[", .rule .slices, "]", .ahead (.rule .targetAhead)],
        Build.subscript⟩,
      ⟨[.rule .targetPrimary, .rule .generator, .ahead (.rule .targetAhead)], Build.call⟩,
      ⟨[.rule .targetPrimary, "(", .maybe (.rule .arguments), ")", .ahead (.rule .targetAhead)],
        Build.call⟩,
      ⟨[.rule .atom, .ahead (.rule .targetAhead)], pass⟩]
  | .targetAhead => [⟨["("], pass⟩, ⟨["["], pass⟩, ⟨["."], pass⟩]
  | _ => []

def bracketChoices : Rule → List Choice
  | .slices =>
    [⟨[.rule .slice, .notAhead ","], pass⟩,
      ⟨[.separated (.group [[.rule .slice], [.rule .spread]]), .maybe ","], Build.tree .tuple⟩]
  | .slice =>
    [⟨[.maybe (.rule .expression), ":", .maybe (.rule .expression),
        .maybe (.group [[":", .maybe (.rule .expression)]])], Build.tree .slice⟩,
      ⟨[.rule .named], pass⟩]
  | .group =>
    [⟨["(", .group [[.rule .yielding], [.rule .named]], ")"], inner⟩,
      ⟨[.rule .wrongGroup], pass⟩]
  | .list => [⟨["[", .maybe (.rule .starMembers), "]"], Build.tree .list⟩]
  | .tuple =>
    [⟨["(", .maybe (.group [[.rule .starMember, ",", .maybe (.rule .starMembers)]]), ")"],
      Build.tree .tuple⟩]
  | .set => [⟨["\x7b", .rule .starMembers, "\x7d"], Build.tree .set⟩]
  | .dict =>
    [⟨["\x7b", .maybe (.rule .entries), "\x7d"], Build.tree .dict⟩,
      ⟨["\x7b", .rule .wrongEntries, "\x7d"], pass⟩]
  | .entries => [⟨[.separated (.rule .entry), .maybe ","], trees⟩]
  | .entry => [⟨["**", .rule .bitOr], around .mapping⟩, ⟨[.rule .pair], pass⟩]
  | .pair => [⟨[.rule .expression, ":", .rule .expression], Build.pair⟩]
  | .loops => [⟨[.some (.rule .loop)], trees⟩]
  | .loop =>
    [⟨["async", "for", .rule .targets, "in", .cut, .rule .disjunction,
        .many [.group [["if", .rule .disjunction]]]], Build.loop true⟩,
      ⟨["for", .rule .targets, "in", .cut, .rule .disjunction,
        .many [.group [["if", .rule .disjunction]]]], Build.loop false⟩,
      ⟨[.rule .wrongTarget], pass⟩]
  | .listLoop =>
    [⟨["[", .rule .named, .rule .loops, "]"], comprehension .list⟩, ⟨[.rule .wrongLoop], pass⟩]
  | .setLoop =>
    [⟨["\x7b", .rule .named, .rule .loops, "\x7d"], comprehension .set⟩,
      ⟨[.rule .wrongLoop], pass⟩]
  | .generator =>
    [⟨["(", .group placedArgument, .rule .loops, ")"], comprehension .generator⟩,
      ⟨[.rule .wrongLoop], pass⟩]
  | .dictLoop =>
    [⟨["\x7b", .rule .pair, .rule .loops, "\x7d"], comprehension .dict⟩,
      ⟨[.rule .wrongDictLoop], pass⟩]
  | .arguments =>
    [⟨[.rule .argumentList, .maybe ",", .ahead ")"], trees⟩, ⟨[.rule .wrongArguments], pass⟩]
  | .argumentList =>
    [⟨[.separated (.group [[.rule .spread], [.group placedArgument, .notAhead "="]]),
        .maybe (.group [[",", .rule .keywords]])], trees⟩,
      ⟨[.rule .keywords], trees⟩]
  | .keywords =>
    [⟨[.separated (.rule .keywordOrSpread), ",", .separated (.rule .keywordOrMapping)], trees⟩,
      ⟨[.separated (.rule .keywordOrSpread)], trees⟩,
      ⟨[.separated (.rule .keywordOrMapping)], trees⟩]
  | .spread => [⟨["*", .rule .expression], around .spread⟩]
  | .keywordOrSpread =>
    [⟨[.rule .wrongKeyword], pass⟩, ⟨[.name, "=", .rule .expression], keyword⟩,
      ⟨[.rule .spread], pass⟩]
  | .keywordOrMapping =>
    [⟨[.rule .wrongKeyword], pass⟩, ⟨[.name, "=", .rule .expression], keyword⟩,
      ⟨["**", .rule .expression], around .mapping⟩]
  | _ => []

def choicesOf (rule : Rule) : List Choice :=
  match rule with
  | .whole => [⟨[.rule .expressions, .many [.lineBreak], .finish], inner⟩]
  | .embedded => [⟨[.rule .starExpressions], pass⟩]
  | .expressions => listed (.rule .expression)
  | .expression =>
    [⟨[.rule .wrongExpression], pass⟩,
      ⟨[.rule .wrongCommand], pass⟩,
      ⟨[.rule .disjunction, "if", .rule .disjunction, "else", .rule .expression], Build.choice⟩,
      ⟨[.rule .disjunction], pass⟩,
      ⟨[.rule .function], pass⟩]
  | .plainExpression =>
    [⟨[.rule .disjunction, "if", .rule .disjunction, "else", .rule .expression], Build.choice⟩,
      ⟨[.rule .disjunction], pass⟩,
      ⟨[.rule .function], pass⟩]
  | .yielding =>
    [⟨["yield", "from", .rule .expression], around .delegated⟩,
      ⟨["yield", .maybe (.rule .starExpressions)], Build.tree .yielded⟩]
  | .starExpressions => listed (.rule .starExpression)
  | .starExpression => [⟨["*", .rule .bitOr], around .spread⟩, ⟨[.rule .expression], pass⟩]
  | .starMembers => [⟨[.separated (.rule .starMember), .maybe ","], trees⟩]
  | .starMember => [⟨["*", .rule .bitOr], around .spread⟩, ⟨[.rule .named], pass⟩]
  | .binding => [⟨[.name, ":=", .cut, .rule .expression], bound⟩]
  | .named =>
    [⟨[.rule .binding], pass⟩, ⟨[.rule .wrongNamed], pass⟩,
      ⟨[.rule .expression, .notAhead ":="], pass⟩]
  | .disjunction =>
    [⟨[.rule .conjunction, .some (.group [["or", .rule .conjunction]])], Build.tree .chain⟩,
      ⟨[.rule .conjunction], pass⟩]
  | .conjunction =>
    [⟨[.rule .inversion, .some (.group [["and", .rule .inversion]])], Build.tree .chain⟩,
      ⟨[.rule .inversion], pass⟩]
  | .inversion => [⟨["not", .rule .inversion], operation⟩, ⟨[.rule .comparison], pass⟩]
  | .comparison =>
    [⟨[.rule .bitOr, .some (.rule .comparisonPair)], Build.comparison⟩, ⟨[.rule .bitOr], pass⟩]
  | .comparisonPair =>
    ([.equal, .unequal, .atMost, .less, .atLeast, .greater, .notWithin, .within, .notSame,
      .same] : List Rule).map fun rule => ⟨[.rule rule], pass⟩
  | .equal => compareBy ["=="]
  | .unequal => [⟨[.group [["!="]], .rule .bitOr], compared⟩]
  | .atMost => compareBy ["<="]
  | .less => compareBy ["<"]
  | .atLeast => compareBy [">="]
  | .greater => compareBy [">"]
  | .notWithin => compareBy ["not", "in"]
  | .within => compareBy ["in"]
  | .notSame => compareBy ["is", "not"]
  | .same => compareBy ["is"]
  | .bitOr => fromLeft .bitOr .bitXor ["|"]
  | .bitXor => fromLeft .bitXor .bitAnd ["^"]
  | .bitAnd => fromLeft .bitAnd .shift ["&"]
  | .shift => fromLeft .shift .sum ["<<", ">>"]
  | .sum => fromLeft .sum .term ["+", "-"]
  | .term => fromLeft .term .factor ["*", "/", "//", "%", "@"]
  | .factor =>
    [⟨["+", .rule .factor], operation⟩, ⟨["-", .rule .factor], operation⟩,
      ⟨["~", .rule .factor], operation⟩, ⟨[.rule .power], pass⟩]
  | .power => [⟨[.rule .awaited, "**", .rule .factor], operation⟩, ⟨[.rule .awaited], pass⟩]
  | .awaited => [⟨["await", .rule .primary], around .awaited⟩, ⟨[.rule .primary], pass⟩]
  | .primary =>
    [⟨[.rule .primary, ".", .name], Build.member⟩,
      ⟨[.rule .primary, .rule .generator], Build.call⟩,
      ⟨[.rule .primary, "(", .maybe (.rule .arguments), ")"], Build.call⟩,
      ⟨[.rule .primary, "[", .rule .slices, "]"], Build.subscript⟩,
      ⟨[.rule .atom], pass⟩]
  | .atom =>
    [⟨[.name], pass⟩, ⟨["True"], literal (.truth true)⟩, ⟨["False"], literal (.truth false)⟩,
      ⟨["None"], literal .null⟩, ⟨[.ahead .quotation, .rule .quotations], pass⟩,
      ⟨[.number], pass⟩,
      ⟨[.ahead "(", .group [[.rule .tuple], [.rule .group], [.rule .generator]]], pass⟩,
      ⟨[.ahead "[", .group [[.rule .list], [.rule .listLoop]]], pass⟩,
      ⟨[.ahead "\x7b",
          .group [[.rule .dict], [.rule .set], [.rule .dictLoop], [.rule .setLoop]]], pass⟩,
      ⟨["..."], literal .ellipsis⟩]
  | .quotations => [⟨[.some .quotation], Build.quotations⟩]
  | other =>
    mistakesOf other ++ functionChoices other ++ targetChoices other ++ bracketChoices other

end SqlScaffold.Expression
