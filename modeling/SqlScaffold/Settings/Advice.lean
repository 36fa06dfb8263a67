import SqlScaffold.Settings.Draft
import SqlScaffold.Storage
import SqlScaffold.Text.Identifier

/-!
Advice on settings that can be used but lead to sources that do not compile or surprise.
-/

namespace SqlScaffold

open Text

inductive Advice where
  | suffix (setting : Setting) (value : Value)
  | indent (value : Value)
  | package (value : Value)
  | override (given typeName : String)

def Advice.message : Advice → String
  | suffix setting value => "Invalid " ++ setting.key ++ ": " ++ value.quoted
  | indent value => "Invalid indent_size: " ++ value.shown
  | package value => "Invalid package name: " ++ value.shown
  | override given typeName =>
    "Unknown logical type '" ++ given ++ "' for override " ++ typeName

namespace Draft

def isName (value : Value) : Bool :=
  match value with
  | .text content => isIdentifier content
  | _ => false

def isPackage (value : Value) : Bool :=
  match value with
  | .text content => (splitAtChar '.' content).all isIdentifier
  | _ => false

def isIndent (value : Value) : Bool :=
  match value.asInt? with
  | some number => decide (1 ≤ number)
  | none => false

def suffixAdvice (draft : Draft) (setting : Setting) : List Advice :=
  if isName (draft.get setting) then [] else [.suffix setting (draft.get setting)]

def overrideAdvice (value : Value) : List Advice :=
  match value with
  | .object entries =>
    (entries.filter fun entry => (StorageType.ofName? entry.2.shown).isNone).map fun entry =>
      .override entry.2.shown entry.1
  | _ => []

def advice (draft : Draft) : List Advice :=
  [Setting.supportSuffix, .mapperSuffix, .resultMapSuffix].flatMap draft.suffixAdvice ++
    (if isIndent draft.indentSize then [] else [.indent draft.indentSize]) ++
    (if !draft.packageName.isTruthy || isPackage draft.packageName then []
      else [.package draft.packageName]) ++
    overrideAdvice draft.typeOverrides

end Draft

end SqlScaffold
