import SqlScaffold.Load.AttributeTable
import SqlScaffold.Load.FurtherMemberTable
import SqlScaffold.Load.Library
import SqlScaffold.Load.MemberTable
import SqlScaffold.Load.OwnMemberTable
import SqlScaffold.Load.PackageMemberTable
import SqlScaffold.Load.Reaction
import SqlScaffold.Scan.Class

/-!
What names stand for: classes of models, modules, and the members of modules of the library. A
member is known by how it stands in an annotation and by how it reacts to a call.
-/

namespace SqlScaffold.Load

open Scan Text

structure Known where
  hint : TypeHint
  reaction : Reaction

inductive Binding where
  | modelClass (declared : ModelClass)
  | module (name : String)
  | known (known : Known)
  | other

abbrev Bindings := List (String × Binding)

structure Member where
  sort : String
  name : String
  origin : String

def Member.ofText (sort text : String) : Member :=
  match splitAtChar '=' text with
  | [name, origin] => ⟨sort, name, origin⟩
  | _ => ⟨sort, text, ""⟩

def Member.ofLine (line : String) : List Member :=
  match splitAtChar '|' line with
  | [sort, names] => (splitAtChar ' ' names).map (Member.ofText sort)
  | _ => []

def hiddenSort : String := "hidden"

def shownSort : String := "shown"

def members? (module : String) : Option (List Member) :=
  let tables := [memberData, ownMemberData, packageMemberData, furtherMemberData]
  (tables.findSome? fun table => table.lookup module).map (List.flatMap Member.ofLine)

def Member.className (module : String) (member : Member) : ClassName :=
  match splitAtChar ':' member.origin with
  | [home, name] => ⟨home, name⟩
  | _ => ⟨module, member.name⟩

def valueOfKind (name kind : String) : Binding := .known ⟨.constant name kind, notCallable kind⟩

def markModules : List String := ["dsl_assist", "dsl_assist.annotations"]

def markName : String := "dynamic_model"

def markBinding : Binding := .known ⟨.constant markName TypeHint.plainFunctionKind, .marks⟩

def Member.binding (module : String) (member : Member) : Binding :=
  let named := member.className module
  let known (hint : TypeHint) (usual : Reaction) : Binding :=
    .known ⟨hint, Reaction.ofMember module member.name usual⟩
  match member.sort with
  | "module" => .module (if member.origin = "" then member.name else member.origin)
  | "class" => known (.type named) .value
  | "exception" => known (.type named) (.exception named.name)
  | "function" => known (.constant member.name TypeHint.plainFunctionKind) .value
  | "builtin" => known (.constant member.name TypeHint.functionKind) .value
  | "callable" => known (.constant member.name "object") .value
  | "form" => known (.form member.name) .value
  | sort => valueOfKind member.name (joinWith " " ((splitAtChar ' ' sort).drop 1))

def isException (name : String) : Bool :=
  let last := ["Error", "Exception", "Warning", "Exit", "Interrupt", "Iteration",
    "Group"]
  last.any fun ending => ending.toList.isSuffixOf name.toList

def usualReaction : TypeHint → Reaction
  | .type named =>
    if named.module = "builtins" && isException named.name then .exception named.name else .value
  | .constant _ kind =>
    if kind = TypeHint.functionKind || kind = TypeHint.plainFunctionKind then .value
    else notCallable kind
  | .literal value => notCallable value.kind
  | _ => .value

def knownHint (module name : String) (hint : TypeHint) : Binding :=
  .known ⟨hint, Reaction.ofMember module name (usualReaction hint)⟩

def universalModule : String := "builtins"

def actions : List (String × Reaction) :=
  [("__import__", .imports), ("eval", .evaluates false), ("exec", .evaluates true)]

/-- What a member of a module of the library is bound to; a module whose members are not known has
any. -/
def libraryBinding? (module name : String) : Option Binding :=
  let listed :=
    if module = formModule then formNames
    else if module = universalModule then builtinNames
    else []
  let action := if module = universalModule then actions.lookup name else none
  if name = markName ∧ markModules.contains module then some markBinding
  else
    match action, listed.lookup name, members? module with
  | some action, _, _ => some (.known ⟨.constant name TypeHint.functionKind, action⟩)
  | none, some hint, _ => some (knownHint module name hint)
  | none, none, none => some .other
  | none, none, some members =>
    let isMember (member : Member) : Bool :=
      member.name = name && member.sort ≠ hiddenSort && member.sort ≠ shownSort
    match members.find? isMember with
    | some member => some (member.binding module)
    | none =>
      let inner := module ++ "." ++ name
      if isInLibrary inner then some (.module inner) else none

def publicMembers (module : String) : Bindings :=
  let listed := if module = formModule then formNames.map Prod.fst else []
  let members := (members? module).getD []
  let ofSort (sort : String) : List String :=
    (members.filter fun member => member.sort = sort).map Member.name
  let hidden := ofSort hiddenSort
  let shown := ofSort shownSort
  let isPublic (name : String) : Bool :=
    shown.contains name || !startsWith "_" name && !hidden.contains name
  ((listed ++ members.map Member.name).filter isPublic).filterMap fun name =>
    (libraryBinding? module name).map fun binding => (name, binding)

def attributesOf (owner : String) : List String :=
  (attributeData.filter fun entry => (namesIn entry.1).contains owner).flatMap fun entry =>
    namesIn entry.2

def valueAttributes (kind : String) : List String :=
  let own := ((splitAtChar '.' kind).getLast?).getD kind
  attributesOf "object" ++ attributesOf own

def classAttributes (name : String) : List String :=
  attributesOf "object" ++ attributesOf "type" ++ attributesOf name ++
    if isException name then attributesOf "Exception" else []

def formOrigins : List (String × String) :=
  [("AbstractSet", "Set"), ("AsyncContextManager", "AbstractAsyncContextManager"),
    ("ContextManager", "AbstractContextManager"), ("DefaultDict", "collections.defaultdict"),
    ("Deque", "collections.deque"), ("Dict", "dict"), ("FrozenSet", "frozenset"),
    ("List", "list"), ("Match", "re.Match"), ("OrderedDict", "collections.OrderedDict"),
    ("Pattern", "re.Pattern"), ("Set", "set"), ("Tuple", "tuple"), ("Type", "type")]

def titleRoom : Nat := 50

def classTitle (named : ClassName) : String :=
  let namesakes : List ClassName := [⟨formModule, "io"⟩, ⟨formModule, "re"⟩]
  let isWhole := TypeHint.goesByWholeName named || namesakes.contains named
  "type object " ++
    quoted (clipped titleRoom (if isWhole then TypeHint.qualified named else named.name))

def annotationAttribute : String := "__annotations__"

def weakAttribute : String := "__weakref__"

def withoutWeak : List String :=
  namesIn
    ["ABCMeta Annotated BinaryIO DecimalTuple Generic IO NamedTupleMeta Protocol SupportsAbs",
      "SupportsBytes SupportsComplex SupportsFloat SupportsIndex SupportsInt SupportsRound TextIO",
      "_AnyMeta _DeprecatedType _Immutable _NotIterable _ProtocolMeta _TypedDictMeta"]

def enumerations : List ClassName := [⟨"enum", "Enum"⟩, ⟨"uuid", "SafeUUID"⟩]

def formMember (form member : String) : Except HintError Binding :=
  if TypeHint.closedForms.contains form || TypeHint.specialForms.contains form then
    if (valueAttributes "_SpecialForm").contains member then .ok .other
    else .error (.bareMember member)
  else if (valueAttributes "_SpecialGenericAlias").contains member then .ok .other
  else if startsWith "__" member then .error (.bareMember member)
  else
    let origin := (formOrigins.lookup form).getD form
    let name := ((splitAtChar '.' origin).getLast?).getD origin
    if (classAttributes name).contains member then .ok .other
    else .error (.noMember ("type object " ++ quoted origin) member)

def Known.member (known : Known) (member : String) : Except HintError Binding :=
  let among (attributes : List String) (title : String) : Except HintError Binding :=
    if attributes.contains member then .ok .other else .error (.noMember title member)
  match known.hint with
  | .type named =>
    let isWritten := named.module ≠ universalModule ∧ ¬ TypeHint.goesByWholeName named
    let weak := if withoutWeak.contains named.name then [] else [weakAttribute]
    let written := if isWritten then annotationAttribute :: weak else []
    let raised := if known.reaction = .exception named.name then attributesOf "Exception" else []
    let attributes := classAttributes named.name ++ written ++ raised
    if enumerations.contains named ∧ ¬ attributes.contains member then
      .error (.bareMember member)
    else among attributes (classTitle named)
  | .form name => formMember name member
  | .constant _ kind => among (valueAttributes kind) (quoted kind ++ " object")
  | .literal value => among (valueAttributes value.kind) (quoted value.kind ++ " object")
  | _ => .ok .other

def markAttribute : String := "__dynamic_model__"

def classMember (declared : ModelClass) (member : String) : Except HintError Binding :=
  let text (value : String) : Except HintError Binding :=
    .ok (knownHint "" member (.literal (.text value)))
  match member with
  | "__name__" | "__qualname__" => text declared.name
  | "__module__" => text declared.module
  | _ =>
    let further := [annotationAttribute, weakAttribute] ++
      if declared.options.isSome then [markAttribute] else []
    if (classAttributes "" ++ further).contains member then .ok .other
    else .error (.noMember ("type object " ++ quoted (clipped titleRoom declared.name)) member)

end SqlScaffold.Load
