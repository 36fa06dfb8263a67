import SqlScaffold.Files.FileTree
import SqlScaffold.Json.Reader
import SqlScaffold.Settings.Draft
import SqlScaffold.Source.Layout

/-!
Settings of the generator. Layers of settings are merged, later ones over earlier ones; keys that
are not known end up among the custom ones. A merged draft becomes settings if every value is of
its kind, and the first that is not, in a fixed order, is reported.
-/

namespace SqlScaffold

open Files

structure Settings where
  outputDirectory : Option String := none
  packageName : Option String := none
  indentSize : Int := 4
  addComments : Bool := true
  supportSuffix : String := "DynamicSqlSupport"
  mapperSuffix : String := "MyBatisDSLMapper"
  resultMapSuffix : String := "Result"
  typeOverrides : List (String × String) := []
  custom : Entries := []

inductive ConfigError where
  | indentNotInteger (value : Value)
  | commentsNotBoolean (value : Value)
  | notText (setting : Setting) (value : Value)
  | overridesNotObject
  | overrideNotText (typeName : String) (value : Value)
  | customNotObject
  | fileNotFound (path : Path)
  | fileNotJson (path : Path)
  | invalidJson (path : Path) (error : Json.ReadError)
  | unreadable (path : Path) (error : SystemError)
  | fileNotObject (path : Path)
  | notSaved (path : Path) (error : SystemError)

def ConfigError.message : ConfigError → String
  | indentNotInteger value => "indent_size must be an integer, got " ++ value.quoted
  | commentsNotBoolean value => "add_comments must be true or false, got " ++ value.quoted
  | notText setting value => setting.key ++ " must be a string, got " ++ value.quoted
  | overridesNotObject => "type_overrides must be an object"
  | overrideNotText typeName value =>
    "type_overrides value for " ++ typeName ++ " must be a logical type name, got " ++ value.quoted
  | customNotObject => "custom must be an object"
  | fileNotFound path => "Configuration file not found: " ++ path.text
  | fileNotJson path => "Configuration file must be JSON: " ++ path.text
  | invalidJson path error =>
    "Invalid JSON in configuration file " ++ path.text ++ ": " ++ error.message
  | unreadable path error =>
    "Cannot read configuration file " ++ path.text ++ ": " ++ error.message
  | fileNotObject path => "Configuration file must contain a JSON object: " ++ path.text
  | notSaved path error =>
    "Failed to save configuration to " ++ path.text ++ ": " ++ error.message

inductive UnknownSetting where
  | unexpected (key : String)
  | reserved
  deriving DecidableEq, Repr

def reservedKey : String := "self"

def UnknownSetting.ofKey (key : String) : UnknownSetting :=
  if key = reservedKey then .reserved else .unexpected key

def UnknownSetting.message : UnknownSetting → String
  | unexpected key =>
    "GeneratorConfig.__init__() got an unexpected keyword argument '" ++ key ++ "'"
  | reserved =>
    "GeneratorConfig.__init__() got multiple values for argument '" ++ reservedKey ++ "'"

namespace Draft

def wholeNumber (value : Value) : Except ConfigError Int :=
  match value with
  | .int number => .ok number
  | other => .error (.indentNotInteger other)

def truth (value : Value) : Except ConfigError Bool :=
  match value with
  | .bool truth => .ok truth
  | other => .error (.commentsNotBoolean other)

def textOf (draft : Draft) (setting : Setting) : Except ConfigError String :=
  match draft.get setting with
  | .text content => .ok content
  | other => .error (.notText setting other)

def optionalTextOf (draft : Draft) (setting : Setting) : Except ConfigError (Option String) :=
  match draft.get setting with
  | .null => .ok none
  | .text content => .ok (some content)
  | other => .error (.notText setting other)

def overridesOf : Entries → Except ConfigError (List (String × String))
  | [] => .ok []
  | (typeName, value) :: rest =>
    match value with
    | .text content => (overridesOf rest).map fun overrides => (typeName, content) :: overrides
    | other => .error (.overrideNotText typeName other)

def objectOf (error : ConfigError) (value : Value) : Except ConfigError Entries :=
  match value with
  | .object entries => .ok entries
  | _ => .error error

def check (draft : Draft) : Except ConfigError Settings := do
  let indentSize ← wholeNumber draft.indentSize
  let addComments ← truth draft.addComments
  let supportSuffix ← draft.textOf .supportSuffix
  let mapperSuffix ← draft.textOf .mapperSuffix
  let resultMapSuffix ← draft.textOf .resultMapSuffix
  let outputDirectory ← draft.optionalTextOf .outputDirectory
  let packageName ← draft.optionalTextOf .packageName
  let typeOverrides ← (← objectOf .overridesNotObject draft.typeOverrides) |> overridesOf
  let custom ← objectOf .customNotObject draft.custom
  .ok { outputDirectory, packageName, indentSize, addComments, supportSuffix, mapperSuffix,
        resultMapSuffix, typeOverrides, custom }

/-- The draft of merged layers; unknown keys are put over the custom ones. -/
def ofMerged (merged : Entries) : Except ConfigError Draft :=
  let draft := ofKnown merged
  let extra := merged.filter fun entry => !isKnown entry
  if extra.isEmpty then .ok draft
  else if draft.custom.isTruthy then do
    let custom ← objectOf .customNotObject draft.custom
    .ok { draft with custom := .object (Entries.merge custom extra) }
  else .ok { draft with custom := .object (Entries.merge [] extra) }

def ofLayers (layers : List Entries) : Except ConfigError Draft :=
  ofMerged (layers.foldl Entries.merge (entries {}))

def ofSettings (given : Entries) : Except UnknownSetting Draft :=
  match given.find? fun entry => !isKnown entry with
  | some entry => .error (.ofKey entry.1)
  | none => .ok (ofKnown given)

end Draft

def Settings.overrideEntries (settings : Settings) : Entries :=
  settings.typeOverrides.map fun entry => (entry.1, .text entry.2)

def Settings.draft (settings : Settings) : Draft where
  outputDirectory := settings.outputDirectory.elim .null .text
  packageName := settings.packageName.elim .null .text
  indentSize := .int settings.indentSize
  addComments := .bool settings.addComments
  supportSuffix := .text settings.supportSuffix
  mapperSuffix := .text settings.mapperSuffix
  resultMapSuffix := .text settings.resultMapSuffix
  typeOverrides := .object settings.overrideEntries
  custom := .object settings.custom

def Settings.indentWidth (settings : Settings) : Except Source.BlanksError Nat :=
  Source.blankCount settings.indentSize

end SqlScaffold
