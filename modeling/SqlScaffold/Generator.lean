import SqlScaffold.Log
import SqlScaffold.Mapper.Interface
import SqlScaffold.Source.Identifier
import SqlScaffold.Template.Library

/-!
The generator of source units. From a model come its table support and its mapper, each as one
unit; warnings about the model never keep it from being generated.
-/

namespace SqlScaffold

open Source

structure SourceUnit where
  package : String
  name : String
  body : String
  deriving DecidableEq, Repr

def SourceUnit.qualifiedName (unit : SourceUnit) : String := qualify unit.package unit.name

inductive Warning where
  | noFields (model : String)
  | keyType (model typeName : String)
  | unmapped (typeName model field : String)
  | name (problem : NameProblem)
  | fieldName (model field : String) (problem : NameProblem)
  | collision (model field inst : String)
  deriving DecidableEq, Repr

def Warning.message : Warning → String
  | noFields model => "Model '" ++ model ++ "' has no fields"
  | keyType model typeName =>
    "Identity field " ++ model ++ ".id has non-integer type '" ++ typeName ++ "'"
  | unmapped typeName model field =>
    "Unmapped type '" ++ typeName ++ "' in " ++ model ++ "." ++ field ++ " - stored as VARCHAR"
  | name problem => problem.message
  | fieldName model field problem => model ++ "." ++ field ++ ": " ++ problem.message
  | collision model field inst =>
    "Field " ++ model ++ "." ++ field ++ " collides with the table instance name '" ++ inst ++ "'"

structure Generator where
  settings : Settings
  mapping : TypeMapping
  library : Template.Library

/-- Why a model cannot be generated. Only a failing template lets a run go on. -/
inductive GenerationFailure where
  | template (error : Template.TemplateError)
  | name (error : Naming.NameError)
  | blanks (error : BlanksError)
  deriving DecidableEq, Repr

def GenerationFailure.message : GenerationFailure → String
  | template error => error.message
  | name error => error.message
  | blanks error => error.message

namespace Generator

def language : String := "java"

def extension : String := ".java"

def make (settings : Settings) (library : Template.Library) : Except UnknownStorage Generator := do
  let mapping ← TypeMapping.ofOverrides settings.overrideEntries
  .ok ⟨settings, mapping, library⟩

def fieldCountWarnings (model : Model) : List Warning :=
  if model.fields.isEmpty then [.noFields model.name] else []

def keyWarnings (model : Model) : List Warning :=
  match model.identity? with
  | some field =>
    if field.category = .integer ∨ field.category = .long then []
    else [.keyType model.name field.typeName]
  | none => []

def unmappedWarnings (settings : Settings) (model : Model) : List Warning :=
  (model.fields.filter fun field =>
    field.category == .other && (settings.typeOverrides.lookup field.typeName).isNone).map
    fun field => .unmapped field.typeName model.name field.name

def fieldWarnings (model : Model) (field : Field) : List Warning :=
  let instanceName := Naming.instanceName model.name
  (nameProblems field.name).map (Warning.fieldName model.name field.name) ++
    if field.name = instanceName then [.collision model.name field.name instanceName] else []

def warnings (generator : Generator) (model : Model) : List Warning :=
  fieldCountWarnings model ++ keyWarnings model ++ unmappedWarnings generator.settings model ++
    (nameProblems model.name).map Warning.name ++
    (packageProblems model.package).map Warning.name ++
    model.fields.flatMap (fieldWarnings model)

def header (model : Model) : String :=
  "Generated by dsl-assist from " ++ model.qualifiedName ++ ". Do not edit."

def commonEntries (settings : Settings) (width : Nat) (model : Model) : Entries :=
  [("header", if settings.addComments then .text (header model) else .null),
    ("ind", .text (Text.repeated width ' ')),
    ("indent_size", .int settings.indentSize)]

def render (generator : Generator) (width : Nat) (template : String) (model : Model)
    (entries : Entries) (name : String) : Except GenerationFailure SourceUnit := do
  let context := entries ++ commonEntries generator.settings width model
  let code ← (generator.library.render template context).mapError GenerationFailure.template
  .ok ⟨model.package, name, normalize code⟩

def units (generator : Generator) (model : Model) : Except GenerationFailure (List SourceUnit) := do
  let support := TableSupport.ofModel generator.settings generator.mapping model
  let width ← generator.settings.indentWidth.mapError GenerationFailure.blanks
  let mapper ←
    (Mapper.Interface.ofModel generator.settings generator.mapping width support.name
      model).mapError GenerationFailure.name
  let first ← generator.render width Template.tableSupportName model support.entries support.name
  let second ← generator.render width Template.mapperName model mapper.entries mapper.name
  .ok [first, second]

def generatedRecord (model : Model) (units : List SourceUnit) : LogRecord :=
  ⟨.debug, .generating, "Generated " ++ Text.joinWith ", " (units.map SourceUnit.name) ++ " for " ++
    model.qualifiedName⟩

def generate (generator : Generator) (model : Model) :
    Logged (Except GenerationFailure (List SourceUnit)) :=
  match generator.units model with
  | .error failure => .silent (.error failure)
  | .ok units => ⟨[generatedRecord model units], .ok units⟩

end Generator

end SqlScaffold
