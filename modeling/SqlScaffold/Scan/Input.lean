import SqlScaffold.Scan.Class

/-!
Inputs of a run: finished models, declarations as values, and classes.
-/

namespace SqlScaffold.Scan

inductive Input where
  | model (model : Model)
  | declaration (value : Value)
  | modelClass (declared : ModelClass)

def Input.scan (input : Input) (defaultPackage : Option String) :
    Logged (Except ScanFailure Model) :=
  match input with
  | .model finished => .silent (.ok finished)
  | .declaration (.object entries) =>
    (scanDeclaration entries defaultPackage).map fun scanned => scanned.mapError .rejected
  | .declaration value => .silent (.error (.rejected (.notDeclaration value.kind)))
  | .modelClass declared => scanClass declared defaultPackage

structure NotIterable where
  kind : String
  deriving DecidableEq, Repr

def NotIterable.message (error : NotIterable) : String :=
  "'" ++ error.kind ++ "' object is not iterable"

def Input.ofValue (value : Value) : Except NotIterable (List Input) :=
  match value with
  | .object entries => .ok [.declaration (.object entries)]
  | .list items => .ok (items.map .declaration)
  | .text content => .ok (content.toList.map fun c => .declaration (.text c.toString))
  | other => .error ⟨other.kind⟩

def Input.describe (input : Input) (index : Nat) : String :=
  let anonymous := "input #" ++ toString index
  match input with
  | .declaration (.object entries) => (textAt? entries "name").getD anonymous
  | .modelClass declared => declared.name
  | _ => anonymous

end SqlScaffold.Scan
