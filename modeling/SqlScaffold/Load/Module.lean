import SqlScaffold.Load.Evaluation

/-!
Modules with classes. A module is a list of statements that bind names; it runs once, when it is
first imported, and the modules that it imports run before it goes on. The classes of a module are
those that it defines and marks as models, under every name they are bound to, in the order of
their definitions.
-/

namespace SqlScaffold.Load

open Scan Text

inductive Statement where
  | define (definition : ClassDefinition)
  | construct (declared : ModelClass)
  | alias (name target : String)
  | importName (module name : String)
  | importModule (module : String)
  | fail (exception message : String)

abbrev ModuleSources := List (String × List Statement)

inductive ImportFailure where
  | emptyName
  | relative (name : String)
  | outside
  | tooFar
  | missing (name : String)
  | notPackage (name parent : String)
  | missingName (name module : String) (placeless : Bool)
  | hint (error : HintError)
  | notException
  | raised (exception message : String)
  deriving DecidableEq, Repr

def ImportFailure.message : ImportFailure → String
  | emptyName => "Empty module name"
  | relative name =>
    "the 'package' argument is required to perform a relative import for " ++ quoted name
  | outside => "attempted relative import with no known parent package"
  | tooFar => "attempted relative import beyond top-level package"
  | missing name => "No module named " ++ quoted name
  | notPackage name parent =>
    "No module named " ++ quoted name ++ "; " ++ quoted parent ++ " is not a package"
  | missingName name module placeless =>
    "cannot import name " ++ quoted name ++ " from " ++ quoted module ++
      if placeless then " (unknown location)" else ""
  | hint error => error.message
  | notException => "exceptions must derive from BaseException"
  | raised _ message => message

def ImportFailure.isImportError : ImportFailure → Bool
  | outside | tooFar | missing _ | notPackage _ _ | missingName _ _ _ => true
  | raised exception _ =>
    ["ImportError", "ModuleNotFoundError", "ZipImportError"].contains exception
  | emptyName | relative _ | hint _ | notException => false

def bodyName (package : String) : String := package ++ ".__init__"

/-- Where a module comes from: a package or a plain module with its statements, a directory that
holds modules and is none itself, or the library. -/
inductive Provenance where
  | package (statements : List Statement)
  | plain (statements : List Statement)
  | directory
  | library

def provenance? (sources : ModuleSources) (name : String) : Option Provenance :=
  if isResident name then if isInLibrary name then some .library else none
  else
    match sources.lookup (bodyName name), sources.lookup name with
    | some statements, _ => some (.package statements)
    | none, some statements => some (.plain statements)
    | none, none =>
      if isInLibrary name then some .library
      else if sources.any fun source => startsWith (name ++ ".") source.1 then some .directory
      else none

def isPackage (sources : ModuleSources) (name : String) : Bool :=
  match provenance? sources name with
  | some (.package _) | some .directory => true
  | some .library => isLibraryPackage name
  | some (.plain _) | none => false

def isPlaceless (sources : ModuleSources) (name : String) : Bool :=
  match provenance? sources name with
  | some .directory => true
  | some .library => placelessModules.contains name
  | _ => false

def importPath (name : String) : List String :=
  ((splitAtChar '.' name).foldl (fun (path : List String × String) part =>
    let whole := if path.1.isEmpty then part else path.2 ++ "." ++ part
    (path.1 ++ [whole], whole)) ([], "")).1

def bindInParent (name : String) (running : Running) : Running :=
  match splitLast '.' name with
  | some (parent, last) => bind parent last (.module name) running
  | none => running

def absoluteName (sources : ModuleSources) (module name : String) :
    Except ImportFailure String :=
  let points := (name.toList.takeWhile (· == '.')).length
  if points = 0 then .ok name
  else
    let parts := splitAtChar '.' module
    let home := if isPackage sources module then parts else parts.dropLast
    let base := home.take (home.length + 1 - points)
    let below := String.ofList (name.toList.drop points)
    if home.isEmpty then .error .outside
    else if base.isEmpty then .error .tooFar
    else .ok (joinWith "." (base ++ if below = "" then [] else [below]))

def publicBindings (bindings : Bindings) : Bindings :=
  bindings.filter fun entry => !startsWith "_" entry.1

inductive Marking where
  | keeps
  | replaces
  | fails (kind message : String)
  deriving DecidableEq, Repr

def emptyResults : List (String × String) :=
  ["bool", "bytearray", "bytes", "complex", "dict", "float", "frozenset", "int", "list", "object",
      "set", "str", "tuple"].map (fun name => (name, name)) ++
    [("print", "NoneType"), ("dir", "list"), ("globals", "dict"), ("locals", "dict"),
      ("vars", "dict")]

def withoutArguments (declared : ModelClass) : String :=
  clipped nameRoom declared.name ++ "() takes no arguments"

def callMark (form : MarkForm) (mark : Binding) : Except ImportFailure Unit :=
  let fail (message : String) : Except ImportFailure Unit := .error (.raised "TypeError" message)
  match form, mark with
  | .bare, _ | _, .other | .called, .modelClass _ => .ok ()
  | .detailed, .modelClass declared => fail (withoutArguments declared)
  | _, .module _ => fail "'module' object is not callable"
  | .detailed, .known thing =>
    match thing.reaction with
    | .exception name => fail (name ++ "() takes no keyword arguments")
    | .fault kind message =>
      if isValue thing.hint then .error (.raised kind message) else .ok ()
    | _ => .ok ()
  | .called, .known thing =>
    match thing.reaction with
    | .fault kind message =>
      if isValue thing.hint then .error (.raised kind message) else .ok ()
    | _ => .ok ()
where
  isValue (hint : TypeHint) : Bool :=
    match usualReaction hint with
    | .fault _ _ => true
    | _ => false

def applyMark (form : MarkForm) (mark : Binding) : Marking :=
  let fail (message : String) : Marking := .fails "TypeError" message
  let notCalled (kind : String) : Marking :=
    fail (quoted (clipped nameRoom kind) ++ " object is not callable")
  match form, mark with
  | .bare, .modelClass declared => fail (withoutArguments declared)
  | _, .modelClass declared => notCalled declared.name
  | _, .module _ => notCalled "module"
  | _, .other => .replaces
  | _, .known thing =>
    match form, thing.reaction, thing.hint with
    | _, .marks, _ => .keeps
    | .bare, .fault kind message, hint =>
      if callMark.isValue hint then .fails kind message else .replaces
    | .bare, _, _ => .replaces
    | _, .exception name, _ => notCalled name
    | _, _, .type named =>
      ((emptyResults.lookup named.name).map notCalled).getD .replaces
    | _, _, .constant name _ => ((emptyResults.lookup name).map notCalled).getD .replaces
    | _, _, _ => .replaces

def define (running : Running) (module : String) (definition : ClassDefinition) :
    Except ImportFailure Running := do
  let mark ← (resolveName running module markName).mapError ImportFailure.hint
  let isMarked := definition.options.isSome
  if isMarked then callMark definition.mark mark
  let declared ← ({ definition with module }.make (lookupIn running module)).mapError
    ImportFailure.hint
  let plain := bind module declared.name (.modelClass declared) running
  if isMarked then
    match applyMark definition.mark mark with
    | .keeps => .ok plain
    | .replaces => .ok (bind module declared.name .other running)
    | .fails kind message => .error (.raised kind message)
  else .ok plain

mutual

def importAll (sources : ModuleSources) :
    Nat → Option String → List String → Running → Except ImportFailure Running
  | 0, _, _, running | _, _, [], running => .ok running
  | fuel + 1, parent, name :: rest, running =>
    if (running.lookup name).isSome then importAll sources fuel (some name) rest running
    else
      let orphaned := parent.filter fun package => !isPackage sources package
      match orphaned, provenance? sources name with
      | some plain, _ => .error (.notPackage name plain)
      | none, none => .error (.missing name)
      | none, some .library => importAll sources fuel (some name) rest (bindInParent name running)
      | none, some .directory =>
        let loading : Loading := ⟨ownBindings name true noRemark, true⟩
        importAll sources fuel (some name) rest (bindInParent name ((name, loading) :: running))
      | none, some (.package statements) | none, some (.plain statements) => do
        let loading : Loading := ⟨firstBindings name (isPackage sources name), false⟩
        let running ← execute sources fuel name statements ((name, loading) :: running)
        importAll sources fuel (some name) rest (bindInParent name (complete name running))

def importFrom (sources : ModuleSources) :
    Nat → String → String → String → Running → Except ImportFailure Running
  | 0, _, _, _, running => .ok running
  | fuel + 1, module, relative, name, running => do
    let imported ← absoluteName sources module relative
    let running ← importAll sources fuel none (importPath imported) running
    match running.lookup imported with
    | none =>
      if name = "*" then
        .ok ((publicMembers imported).foldl
          (fun running entry => bind module entry.1 entry.2 running) running)
      else
        match moduleMember running imported name with
        | .ok binding => .ok (bind module name binding running)
        | .error _ => .error (.missingName name imported (isPlaceless sources imported))
    | some loading =>
      if name = "*" then
        .ok ((publicBindings loading.bindings).foldr
          (fun entry running => bind module entry.1 entry.2 running) running)
      else
        match loading.bindings.lookup name with
        | some binding => .ok (bind module name binding running)
        | none =>
          let inner := imported ++ "." ++ name
          if isPackage sources imported && (provenance? sources inner).isSome then do
            let running ← importAll sources fuel none (importPath inner) running
            .ok (bind module name (.module inner) running)
          else .error (.missingName name imported (isPlaceless sources imported))

def execute (sources : ModuleSources) :
    Nat → String → List Statement → Running → Except ImportFailure Running
  | 0, _, _, running | _, _, [], running => .ok running
  | fuel + 1, module, statement :: rest, running => do
    let running ←
      match statement with
      | .define definition => define running module definition
      | .construct declared =>
        .ok (bind module declared.name (.modelClass { declared with module }) running)
      | .alias name target => do
        let binding ← (resolve running module target).mapError ImportFailure.hint
        .ok (bind module (normalForm name) binding running)
      | .importModule given => do
        let imported := normalForm given
        let running ← importAll sources fuel none (importPath imported) running
        let first := outermost imported
        .ok (bind module first (.module first) running)
      | .importName imported name =>
        importFrom sources fuel module (normalForm imported) (normalForm name) running
      | .fail exception message => do
        match ← (resolve running module exception).mapError ImportFailure.hint with
        | .modelClass declared =>
          .error (.raised "TypeError" (withoutArguments declared))
        | .module _ => .error (.raised "TypeError" "'module' object is not callable")
        | .other => .error .notException
        | .known thing =>
          match thing.reaction with
          | .imports =>
            if message = "" then .error .emptyName
            else
              let _ ← importAll sources fuel none (importPath message) running
              .error .notException
          | .evaluates isBody =>
            match raisedByText ⟨running, module⟩ isBody message with
            | .ok (some (kind, shown)) => .error (.raised kind shown)
            | .ok none => .error .notException
            | .error error => .error (.hint error)
          | reaction =>
            match reaction.outcome message with
            | some (kind, shown) => .error (.raised kind shown)
            | none => .error .notException
    execute sources fuel module rest running

end

def statementSteps (module : String) : Statement → Nat
  | .importModule imported => 2 + imported.length
  | .importName imported name => 4 + module.length + imported.length + name.length
  | .fail _ message => 2 + message.length
  | _ => 1

def statementsSteps (module : String) : List Statement → Nat
  | [] => 1
  | statement :: rest => statementSteps module statement + statementsSteps module rest

/-- Enough for every module to run once: each step takes a statement or a part of a name. -/
def importFuel (sources : ModuleSources) (name : String) : Nat :=
  sources.foldr (fun source steps => statementsSteps source.1 source.2 + steps) (name.length + 2)

def definitionPlace (name : String) (statements : List Statement) : Nat :=
  let isDefinition (statement : Statement) : Bool :=
    match statement with
    | .define definition => normalForm definition.name == name
    | _ => false
  if statements.any isDefinition then statements.findIdx isDefinition + 1 else 0

def markedClasses (module : String) (bindings : Bindings) : List ModelClass :=
  bindings.filterMap fun entry =>
    match entry.2 with
    | .modelClass declared =>
      if declared.module = module ∧ declared.options.isSome then some declared else none
    | _ => none

def currentBindings (bindings : Bindings) : Bindings :=
  let names := bindings.foldl (fun (names : List String) entry =>
    if names.contains entry.1 then names else entry.1 :: names) []
  let ordered := names.mergeSort fun left right => decide (left ≤ right)
  ordered.filterMap fun name => (bindings.lookup name).map fun binding => (name, binding)

def statementsOf (sources : ModuleSources) (name : String) : List Statement :=
  match provenance? sources name with
  | some (.package statements) | some (.plain statements) => statements
  | some .directory | some .library | none => []

def importClasses (sources : ModuleSources) (name : String) :
    Except ImportFailure (List ModelClass) := do
  if name.toList.head? = some '.' then .error (.relative name)
  else if name = "" then .error .emptyName
  else
    let running ← importAll sources (importFuel sources name) none (importPath name) []
    let bindings := ((running.lookup name).map Loading.bindings).getD []
    let classes := markedClasses name (currentBindings bindings)
    let statements := statementsOf sources name
    .ok (classes.mergeSort fun left right =>
      definitionPlace left.name statements ≤ definitionPlace right.name statements)

end SqlScaffold.Load
