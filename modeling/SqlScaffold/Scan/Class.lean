import SqlScaffold.Scan.Declaration
import SqlScaffold.Scan.HintExpression
import SqlScaffold.Text.Normal

/-!
Scanning of annotated classes. Every annotated attribute of a marked class is a field, in order of
declaration, unless it is static. A class without a package of its own belongs to the default
package, and without one to the module that defines it.
-/

namespace SqlScaffold.Scan

structure ClassOptions where
  table : Option String
  package : Option String
  deriving DecidableEq, Repr

structure ModelClass where
  name : String
  module : String
  options : Option ClassOptions
  attributes : List (String × TypeHint)

def ModelClass.hint (declared : ModelClass) : TypeHint := .type ⟨declared.module, declared.name⟩

inductive MarkForm where
  | bare
  | called
  | detailed
  deriving DecidableEq, Repr

structure ClassDefinition where
  name : String
  module : String
  options : Option ClassOptions
  mark : MarkForm := .called
  attributes : List (String × HintExpression)

def attributeName (owner name : String) : String :=
  let bare := owner.toList.dropWhile (· == '_')
  let isPrivate :=
    Text.startsWith "__" name && !Text.startsWith "__" (String.ofList name.toList.reverse)
  if isPrivate && !bare.isEmpty then "_" ++ String.ofList bare ++ name else name

def annotate (lookup : HintLookup) (owner : String) (attributes : List (String × TypeHint)) :
    List (String × HintExpression) → Except HintError (List (String × TypeHint))
  | [] => .ok attributes
  | (name, expression) :: rest => do
    let hint ← expression.evaluate lookup
    annotate lookup owner (Keyed.put (attributeName owner (Text.normalForm name)) hint attributes) rest

def ClassDefinition.make (definition : ClassDefinition) (lookup : HintLookup) :
    Except HintError ModelClass :=
  let name := Text.normalForm definition.name
  (annotate lookup name [] definition.attributes).map fun attributes =>
    { name, module := definition.module, options := definition.options, attributes }

def makeClasses (lookup : HintLookup) :
    List ClassDefinition → Except HintError (List ModelClass)
  | [] => .ok []
  | definition :: rest => do
    let made ← definition.make lookup
    let known : HintLookup := fun name => if name = made.name then .ok made.hint else lookup name
    let later ← makeClasses known rest
    .ok (made :: later)

def scanAttributes (model : String) :
    List (String × TypeHint) → Logged (Except ScanFailure (List Field))
  | [] => .silent (.ok [])
  | (name, hint) :: rest =>
    if hint.isStatic then
      .after [skippedRecord model name] (scanAttributes model rest)
    else
      match hint.typeName? with
      | .error value => .silent (.error (.unhashable value))
      | .ok none => .silent (.error (.rejected (.unsupported model name hint.quoted)))
      | .ok (some typeName) =>
        (scanAttributes model rest).map fun fields => fields.map (⟨name, typeName⟩ :: ·)

def firstGiven (texts : List (Option String)) (last : String) : String :=
  ((texts.filterMap id).find? (· ≠ "")).getD last

def scanClass (declared : ModelClass) (defaultPackage : Option String) :
    Logged (Except ScanFailure Model) :=
  match declared.options with
  | none => .silent (.error (.rejected (.undecorated declared.name)))
  | some options =>
    let package := firstGiven [options.package, defaultPackage] declared.module
    (scanAttributes declared.name declared.attributes).andThenOk fun fields =>
      (finish package declared.name fields options.table).map fun made =>
        made.mapError .rejected

end SqlScaffold.Scan
