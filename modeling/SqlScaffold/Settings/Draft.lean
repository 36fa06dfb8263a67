import SqlScaffold.Value

/-!
Drafts of settings. A draft holds any value under each known setting, so that values of the wrong
kind can be kept, shown and refused.
-/

namespace SqlScaffold

inductive Setting where
  | outputDirectory
  | packageName
  | indentSize
  | addComments
  | supportSuffix
  | mapperSuffix
  | resultMapSuffix
  | typeOverrides
  | custom
  deriving DecidableEq, Repr

namespace Setting

def key : Setting → String
  | outputDirectory => "output_dir"
  | packageName => "package_name"
  | indentSize => "indent_size"
  | addComments => "add_comments"
  | supportSuffix => "support_suffix"
  | mapperSuffix => "mapper_suffix"
  | resultMapSuffix => "result_map_suffix"
  | typeOverrides => "type_overrides"
  | custom => "custom"

def all : List Setting :=
  [outputDirectory, packageName, indentSize, addComments, supportSuffix, mapperSuffix,
    resultMapSuffix, typeOverrides, custom]

theorem mem_all (setting : Setting) : setting ∈ all := by cases setting <;> decide

def ofKey? (key : String) : Option Setting := all.find? fun setting => setting.key == key

theorem ofKey?_key (setting : Setting) : ofKey? setting.key = some setting := by
  cases setting <;> decide

end Setting

inductive NotObject where
  | list
  | other (kind : String)
  deriving DecidableEq, Repr

def NotObject.message : NotObject → String
  | list => "list indices must be integers or slices, not str"
  | other kind => "'" ++ kind ++ "' object does not support item assignment"

structure Draft where
  outputDirectory : Value := .null
  packageName : Value := .null
  indentSize : Value := .int 4
  addComments : Value := .bool true
  supportSuffix : Value := .text "DynamicSqlSupport"
  mapperSuffix : Value := .text "MyBatisDSLMapper"
  resultMapSuffix : Value := .text "Result"
  typeOverrides : Value := .object []
  custom : Value := .object []

namespace Draft

def get (draft : Draft) : Setting → Value
  | .outputDirectory => draft.outputDirectory
  | .packageName => draft.packageName
  | .indentSize => draft.indentSize
  | .addComments => draft.addComments
  | .supportSuffix => draft.supportSuffix
  | .mapperSuffix => draft.mapperSuffix
  | .resultMapSuffix => draft.resultMapSuffix
  | .typeOverrides => draft.typeOverrides
  | .custom => draft.custom

def set (draft : Draft) (setting : Setting) (value : Value) : Draft :=
  match setting with
  | .outputDirectory => { draft with outputDirectory := value }
  | .packageName => { draft with packageName := value }
  | .indentSize => { draft with indentSize := value }
  | .addComments => { draft with addComments := value }
  | .supportSuffix => { draft with supportSuffix := value }
  | .mapperSuffix => { draft with mapperSuffix := value }
  | .resultMapSuffix => { draft with resultMapSuffix := value }
  | .typeOverrides => { draft with typeOverrides := value }
  | .custom => { draft with custom := value }

theorem get_set (draft : Draft) (setting other : Setting) (value : Value) :
    (draft.set setting value).get other = if other = setting then value else draft.get other := by
  cases setting <;> cases other <;> rfl

def putInside (draft : Draft) (setting : Setting) (key : String) (value : Value) :
    Except NotObject Draft :=
  match draft.get setting with
  | .object entries => .ok (draft.set setting (.object (Entries.put key value entries)))
  | .list _ => .error .list
  | other => .error (.other other.kind)

def entries (draft : Draft) : Entries :=
  Setting.all.map fun setting => (setting.key, draft.get setting)

def ofKnown (given : Entries) : Draft :=
  given.foldl (fun draft entry =>
    match Setting.ofKey? entry.1 with
    | some setting => draft.set setting entry.2
    | none => draft) {}

def isKnown (entry : String × Value) : Bool := (Setting.ofKey? entry.1).isSome

def same (left right : Draft) : Bool :=
  Setting.all.all fun setting => (left.get setting).same (right.get setting)

/-- Writing out all settings and taking them over again gives back the draft. -/
theorem ofKnown_entries (draft : Draft) : ofKnown draft.entries = draft := by
  simp [ofKnown, entries, Setting.all, Setting.ofKey?_key, set, get]

end Draft

end SqlScaffold
