import SqlScaffold.Log
import SqlScaffold.Model
import SqlScaffold.Scan.TypeHint

/-!
Scanning of declarations given as objects. The checks go from the kind of the declaration over its
name, table and package to its fields in order, and the first one that fails is reported. Static
members are no fields.
-/

namespace SqlScaffold.Scan

open Text

inductive ScanError where
  | notDeclaration (kind : String)
  | notClass (subject kind : String)
  | unnamedModel
  | tableNotText (model : String)
  | packageNotText (model : String)
  | fieldsNotList (model : String)
  | fieldNotObject (model : String) (index : Nat)
  | unnamedField (model : String) (index : Nat)
  | untypedField (model field : String)
  | undecorated (name : String)
  | unsupported (model field hint : String)
  | invalid (error : ModelError)
  deriving DecidableEq, Repr

def ScanError.message : ScanError → String
  | notDeclaration kind => "Not a model declaration: " ++ kind
  | notClass subject kind => subject ++ ": expected a class declaration, got '" ++ kind ++ "'"
  | unnamedModel => "Model declaration is missing a name"
  | tableNotText model => model ++ ": 'table' must be a string"
  | packageNotText model => model ++ ": 'package' must be a string"
  | fieldsNotList model => model ++ ": 'fields' must be a list"
  | fieldNotObject model index => model ++ ": field #" ++ toString index ++ " is not an object"
  | unnamedField model index => model ++ ": field #" ++ toString index ++ " has no name"
  | untypedField model field => model ++ "." ++ field ++ ": missing type"
  | undecorated name => name ++ ": class is not decorated with @dynamic_model"
  | unsupported model field hint =>
    model ++ "." ++ field ++ ": unsupported annotation " ++ hint
  | invalid error => error.message

/-- Why a scan ends without a model. A value that cannot be looked up is no fault of the
declaration's shape, and a run does not go on after it. -/
inductive ScanFailure where
  | rejected (error : ScanError)
  | unhashable (value : TypeHint.UnhashableValue)
  deriving DecidableEq, Repr

def ScanFailure.message : ScanFailure → String
  | rejected error => error.message
  | unhashable value => value.message

abbrev Scanned (α : Type) := Logged (Except ScanError α)

def reject {α : Type} (error : ScanError) : Scanned α := .silent (.error error)

def debugRecord (message : String) : LogRecord := ⟨.debug, .scanning, message⟩

def skippedRecord (model field : String) : LogRecord :=
  debugRecord ("Skipping static member " ++ model ++ "." ++ field)

def scannedRecord (model : Model) : LogRecord :=
  debugRecord ("Scanned model " ++ model.qualifiedName ++ " with " ++
    toString model.fields.length ++ " field(s)")

def finish (package name : String) (fields : List Field) (table : Option String) : Scanned Model :=
  match Model.make package name fields table with
  | .error error => reject (.invalid error)
  | .ok model => ⟨[scannedRecord model], .ok model⟩

def textAt? (entries : Entries) (key : String) : Option String :=
  match entries.get? key with
  | some (.text value) => if value = "" then none else some value
  | _ => none

def truthyAt? (entries : Entries) (key : String) : Option Value :=
  (entries.get? key).filter Value.isTruthy

/-- The text of an option that may be left out; any other value is not accepted. -/
def optionText? (given : Option Value) : Option String :=
  match given with
  | none => some ""
  | some (.text value) => some value
  | some _ => none

def scanMembers (model : String) : Nat → List Value → Scanned (List Field)
  | _, [] => .silent (.ok [])
  | index, member :: rest =>
    match member with
    | .object entries =>
      match textAt? entries "name" with
      | none => reject (.unnamedField model index)
      | some field =>
        match textAt? entries "type" with
        | none => reject (.untypedField model field)
        | some typeName =>
          let later := scanMembers model (index + 1) rest
          if (truthyAt? entries "static").isSome then
            .after [skippedRecord model field] later
          else later.map fun fields => fields.map (⟨field, typeName⟩ :: ·)
    | _ => reject (.fieldNotObject model index)

def scanDeclaration (entries : Entries) (defaultPackage : Option String) : Scanned Model :=
  let kind := (entries.get? "kind").getD (.text "class")
  let named := textAt? entries "name"
  if kind.shown ≠ "class" then reject (.notClass (named.getD "<unnamed>") kind.shown)
  else
    match named with
    | none => reject .unnamedModel
    | some name =>
      if allBlank name then reject .unnamedModel
      else
        match optionText? (truthyAt? entries "table") with
        | none => reject (.tableNotText name)
        | some table =>
          let inherited := Value.text (defaultPackage.getD "")
          match optionText? ((truthyAt? entries "package").getD inherited) with
          | none => reject (.packageNotText name)
          | some package =>
            match (entries.get? "fields").getD (.list []) with
            | .list members =>
              (scanMembers name 0 members).andThenOk fun fields =>
                finish package (trim name) fields (some table)
            | _ => reject (.fieldsNotList name)

end SqlScaffold.Scan
