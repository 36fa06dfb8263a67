import SqlScaffold.Load.Member

/-!
What the names of modules mean while these run. A name is looked up in its module, then among the
names that every module knows, and the parts behind a point are members of what stands before it.
-/

namespace SqlScaffold.Load

open Scan Text

def importedModules : List String := ["datetime", "decimal", formModule, "uuid"]

def moduleValues : List (String × String) :=
  [("__builtins__", "dict"), ("__cached__", "str"), ("__file__", "str"),
    ("__loader__", "SourceFileLoader"), ("__spec__", "ModuleSpec")]

def noRemark : Binding := knownHint "" "__doc__" (.literal .null)

def ownBindings (module : String) (isPackage : Bool) (remark : Binding) : Bindings :=
  let home :=
    if isPackage then module else ((splitLast '.' module).map Prod.fst).getD ""
  let text (name value : String) : String × Binding :=
    (name, knownHint "" name (.literal (.text value)))
  text "__name__" module :: text "__package__" home ::
    ("__doc__", remark) ::
    (moduleValues ++ if isPackage then [("__path__", "list")] else []).map fun entry =>
      (entry.1, valueOfKind entry.1 entry.2)

def firstBindings (module : String) (isPackage : Bool) : Bindings :=
  let ordered : TypeHint := .type ⟨"collections", "OrderedDict"⟩
  importedModules.map (fun name => (name, Binding.module name)) ++
    [(markName, markBinding), ("OrderedDict", knownHint "collections" "OrderedDict" ordered)] ++
    ownBindings module isPackage noRemark

structure Loading where
  bindings : Bindings
  complete : Bool := false

abbrev Running := List (String × Loading)

def change (module : String) (step : Loading → Loading) : Running → Running
  | [] => []
  | entry :: rest =>
    if entry.1 = module then (module, step entry.2) :: rest else entry :: change module step rest

def bind (module name : String) (binding : Binding) : Running → Running :=
  change module fun loading => { loading with bindings := (name, binding) :: loading.bindings }

def complete (module : String) : Running → Running :=
  change module fun loading => { loading with complete := true }

def bindingOf? (running : Running) (module name : String) : Option Binding :=
  (running.lookup module).bind fun loading => loading.bindings.lookup name

def moduleMember (running : Running) (module member : String) : Except HintError Binding :=
  let title := "module " ++ quoted module
  let isCommon := (valueAttributes "object" ++ ["__annotations__", "__dict__"]).contains member
  match running.lookup module with
  | some loading =>
    match loading.bindings.lookup member with
    | some binding => .ok binding
    | none =>
      if isCommon then .ok .other
      else if loading.complete then .error (.noMember title member)
      else .error (.unfinished title member)
  | none =>
    let remark := valueOfKind "__doc__" "str"
    match (ownBindings module (isLibraryPackage module) remark).lookup member with
    | some binding => .ok binding
    | none =>
      match libraryBinding? module member with
      | some binding => .ok binding
      | none => if isCommon then .ok .other else .error (.noMember title member)

def memberOf (running : Running) (owner : Binding) (member : String) : Except HintError Binding :=
  match owner with
  | .module name => moduleMember running name member
  | .modelClass declared => classMember declared member
  | .known known => known.member member
  | .other => .ok .other

def resolveName (running : Running) (module name : String) : Except HintError Binding :=
  match bindingOf? running module name with
  | some binding => .ok binding
  | none =>
    match libraryBinding? universalModule name with
    | some binding => .ok binding
    | none => .error (.unbound name)

def Binding.asHint (name : String) : Binding → TypeHint
  | .modelClass declared => declared.hint
  | .known thing => thing.hint
  | .module whole => .constant ("<module " ++ quoted whole ++ ">") "module"
  | .other => .constant name "type"

end SqlScaffold.Load
