import SqlScaffold.Proofs.Generator
import SqlScaffold.Proofs.Mapper.References

/-!
One list of columns in both units of a model. Every place that lists columns lists the declared
fields, once each and in their order, and the mapper refers to nothing in the class of the table but
its columns and its instance.
-/

namespace SqlScaffold

open Mapper Naming

def columnEntriesOf (support : TableSupport) (mapping : TypeMapping) (field : Field) : Entries :=
  [("name", .text field.name), ("column_name", .text (columnName field.name)),
    ("jdbc_type", .text (mapping.storage field.typeName).name),
    ("value_type", .text (support.writtenType (boxedType field.typeName)))]

def resultText (indent : String) (mapping : TypeMapping) (field : Field) : String :=
  indent ++ "@Result(column = \"" ++ columnName field.name ++ "\", property = \"" ++
    field.name ++ "\", jdbcType = JdbcType." ++ (mapping.storage field.typeName).name ++
    if field.isIdentity then ", id = true)" else ")"

def resultsText (resultMap : String) (results : List String) : String :=
  "@Results(id = \"" ++ resultMap ++ "\", value = \x7b" ++
    if results.isEmpty then "\x7d)" else "\n" ++ Text.joinWith ",\n" results ++ "\n\x7d)"

structure SameColumns (generator : Generator) (width : Nat) (model : Model)
    (support : TableSupport) (mapper : Interface) : Prop where
  bindings : mapper.columns = support.columns
  declared : support.columns = model.fields.map fun field =>
    ⟨field.name, columnName field.name, generator.mapping.storage field.typeName,
      field.isIdentity, boxedType field.typeName⟩
  accessors : support.columns.map Column.fieldName = model.fields.map Field.name
  distinct : (support.columns.map Column.fieldName).Nodup
  entries : support.entries.get? "columns" =
    some (.list (model.fields.map fun field =>
      .object (columnEntriesOf support generator.mapping field)))
  selectList : mapper.selectList = model.fields.map fun field => support.name ++ "." ++ field.name
  insert : (mapper.overloads "insert").map Operation.body =
    [("return MyBatis3Utils.insert(this::insert, row, " ++
        (support.name ++ "." ++ support.instanceName) ++ ", c -> c") ::
      model.fields.map (fun field =>
        (mapLine (Text.repeated width ' ') field).written support.name) ++ [");"]]
  results : ((mapper.overloads "selectOne").filter Operation.legacy).map Operation.annotations =
    [[Subject.selectMark, resultsText mapper.resultMap
      (model.fields.map (resultText (Text.repeated width ' ') generator.mapping))]]
  update : ∀ key ∈ model.fields, key.isIdentity →
    (mapper.overloads "updateByPrimaryKey").map Operation.body =
      ["return update(c -> c" ::
        (model.fields.filter fun field => field.name != "id").map (fun field =>
          (setLine (Text.repeated width ' ') field).written support.name) ++
        [(whereLine (Text.repeated width ' ') key).written support.name, ");"]]
  keyless : (∀ field ∈ model.fields, ¬field.isIdentity) →
    mapper.overloads "updateByPrimaryKey" = []
  supportName : mapper.supportName = support.name
  references : ∃ (selected : List Line) (drafts : List OperationDraft),
    (∀ className, ∃ other,
      Interface.ofModel generator.settings generator.mapping width className model = .ok other ∧
        other.selectList = selected.map (Line.written className) ∧
        other.operations = drafts.map (OperationDraft.written className)) ∧
      selected.filterMap Line.member? = support.columns.map Column.fieldName ∧
      ∀ draft ∈ drafts,
        draft.members ⊆ support.instanceName :: support.columns.map Column.fieldName

namespace Mapper

variable (settings : Settings) (mapping : TypeMapping) (width : Nat) (className : String)
  (model : Model)

theorem overloads_insert :
    (Interface.of settings mapping width className model).overloads "insert" =
      [(Subject.ofModel settings mapping width className model).insert] := by
  rw [overloads_of_keyless _ _ _ _ _ (by simp)]
  rfl

theorem overloads_selectOne :
    (Interface.of settings mapping width className model).overloads "selectOne" =
      [(Subject.ofModel settings mapping width className model).selectOneStatement,
        (Subject.ofModel settings mapping width className model).selectOneCompleter] := by
  rw [overloads_of_keyless _ _ _ _ _ (by simp)]
  rfl

theorem overloads_update :
    (Interface.of settings mapping width className model).overloads "updateByPrimaryKey" =
      (model.identity?.map fun key =>
        (Subject.ofModel settings mapping width className model).updateOf
          (Column.ofField mapping key)).toList := by
  have key := Subject.key?_ofModel settings mapping width className model
  rw [overloads_of_keyed _ _ _ _ _ (by simp), keyedOperations, key]
  cases model.identity? with
  | none => rfl
  | some field => rfl

theorem body_insert :
    (Subject.ofModel settings mapping width className model).insert.body =
      ("return MyBatis3Utils.insert(this::insert, row, " ++
          (className ++ "." ++ instanceName model.name) ++ ", c -> c") ::
        model.fields.map (fun field =>
          (mapLine (Text.repeated width ' ') field).written className) ++ [");"] := by
  simp [Subject.insert, Subject.ofModel, Model.columns, Column.ofField, Subject.table,
    Subject.columnConstant, mapLine, Line.written, Subject.rowParameter, String.append_assoc]

theorem body_update {key : Field} :
    ((Subject.ofModel settings mapping width className model).updateOf
        (Column.ofField mapping key)).body =
      "return update(c -> c" ::
        (model.fields.filter fun field => field.name != "id").map (fun field =>
          (setLine (Text.repeated width ' ') field).written className) ++
        [(whereLine (Text.repeated width ' ') key).written className, ");"] := by
  rw [← written_updateDraft]
  simp only [OperationDraft.written, updateDraft, List.cons_append, List.map_cons, List.map_append,
    List.map_map, List.map_nil, Line.written_plain]
  rfl

theorem results_columns :
    (Subject.ofModel settings mapping width className model).columns.map
        (Subject.ofModel settings mapping width className model).resultEntry =
      model.fields.map (resultText (Text.repeated width ' ') mapping) := by
  change (model.fields.map _).map _ = _
  rw [List.map_map]
  rfl

theorem resultsMark_eq :
    (Subject.ofModel settings mapping width className model).resultsMark =
      resultsText (Subject.ofModel settings mapping width className model).resultMap
        (model.fields.map (resultText (Text.repeated width ' ') mapping)) := by
  unfold Subject.resultsMark resultsText
  rw [results_columns]
  by_cases empty : model.fields = []
  · have noColumns : (Subject.ofModel settings mapping width className model).columns.isEmpty := by
      simp [Subject.ofModel, Model.columns, empty]
    rw [if_pos noColumns, if_pos (by simp [empty])]
  · have nonempty : ¬(Subject.ofModel settings mapping width className model).columns.isEmpty := by
      simp [Subject.ofModel, Model.columns, empty]
    rw [if_neg nonempty, if_neg (by simp [empty])]
    simp only [String.append_assoc]

theorem interface_selectList :
    (Interface.of settings mapping width className model).selectList =
      model.fields.map fun field => className ++ "." ++ field.name := by
  simp [Interface.selectList, Interface.of, Model.columns, Column.ofField]

end Mapper

theorem supportEntries_columns (generator : Generator) (model : Model) :
    (generator.support model).entries.get? "columns" =
      some (.list (model.fields.map fun field =>
        .object (columnEntriesOf (generator.support model) generator.mapping field))) := by
  have columns : (generator.support model).columns.map (fun column =>
        Value.object ((generator.support model).columnEntries column)) =
      model.fields.map fun field =>
        .object (columnEntriesOf (generator.support model) generator.mapping field) := by
    change (model.fields.map _).map _ = _
    rw [List.map_map]
    rfl
  rw [← columns]
  rfl

/-- What the mapper refers to in the class of the table, whatever the name of that class is. -/
theorem interface_references (settings : Settings) (mapping : TypeMapping) (width : Nat)
    {model : Model} (named : ∀ field ∈ model.fields, field.name ≠ "") :
    ∃ (selected : List Line) (drafts : List OperationDraft),
      (∀ className, ∃ other, Interface.ofModel settings mapping width className model = .ok other ∧
        other.selectList = selected.map (Line.written className) ∧
        other.operations = drafts.map (OperationDraft.written className)) ∧
      selected.filterMap Line.member? = model.fields.map Field.name ∧
      ∀ draft ∈ drafts, draft.members ⊆ instanceName model.name :: model.fields.map Field.name := by
  refine ⟨model.fields.map fun field => .referring "" field.name "",
    drafts settings mapping width model, ?_, ?_, members_drafts _ _ _ _⟩
  · intro className
    refine ⟨_, Interface.ofModel_eq _ _ width className named, ?_, ?_⟩
    · rw [interface_selectList]
      simp [Line.written]
    · exact (written_drafts _ _ _ _ _).symm
  · rw [List.filterMap_map]
    exact congrFun List.filterMap_eq_map model.fields

theorem sameColumns_of_named (generator : Generator) (width : Nat) {model : Model}
    (named : ∀ field ∈ model.fields, field.name ≠ "") :
    SameColumns generator width model (generator.support model)
      (Interface.of generator.settings generator.mapping width (generator.support model).name
        model) := by
  have names : (generator.support model).columns.map Column.fieldName =
      model.fields.map Field.name := by
    simp [Generator.support, Model.columns, Column.ofField]
  exact {
    bindings := rfl
    declared := rfl
    accessors := names
    distinct := by
      rw [names]
      exact model.distinct
    entries := supportEntries_columns generator model
    selectList := Mapper.interface_selectList _ _ _ _ _
    insert := by
      rw [Mapper.overloads_insert, List.map_singleton, Mapper.body_insert]
      rfl
    results := by
      rw [Mapper.overloads_selectOne]
      change [[Subject.selectMark, Subject.resultsMark _]] = _
      rw [Mapper.resultsMark_eq]
      rfl
    update := by
      intro key member identity
      rw [Mapper.overloads_update, Model.identity?_eq_some member identity]
      simp [Mapper.body_update]
    keyless := by
      intro keyless
      rw [Mapper.overloads_update, Model.identity?, List.find?_eq_none.mpr keyless]
      rfl
    supportName := rfl
    references := by
      rw [names]
      exact interface_references generator.settings generator.mapping width named }

/-- If all fields have names, the support and the mapper describe the same columns, and the units of
a model are made of these two. -/
theorem units_sameColumns (generator : Generator) {model : Model}
    (named : ∀ field ∈ model.fields, field.name ≠ "") :
    (∀ width, ∃ mapper, generator.interface width model = .ok mapper ∧
      SameColumns generator width model (generator.support model) mapper) ∧
    ∀ units, generator.units model = .ok units → ∃ width mapper first second,
      SameColumns generator width model (generator.support model) mapper ∧
      generator.render width Template.tableSupportName model (generator.support model).entries
        (generator.support model).name = .ok first ∧
      generator.render width Template.mapperName model mapper.entries mapper.name = .ok second ∧
      units = [first, second] := by
  have formed : ∀ width, generator.interface width model =
      .ok (.of generator.settings generator.mapping width (generator.support model).name model) :=
    fun width => Interface.ofModel_eq _ _ width _ named
  constructor
  · exact fun width => ⟨_, formed width, sameColumns_of_named generator width named⟩
  · intro units made
    obtain ⟨width, mapper, first, second, _, interface, supportUnit, mapperUnit, paired⟩ :=
      Generator.rendered_of_units made
    rw [formed width] at interface
    cases interface
    exact ⟨width, _, first, second, sameColumns_of_named generator width named, supportUnit,
      mapperUnit, paired⟩

def orderModel : Model where
  package := "app"
  name := "Order"
  fields := [⟨"note", "String"⟩, ⟨"id", "Long"⟩, ⟨"placedAt", "java.time.Instant"⟩]
  table := none
  named := by decide
  distinct := by decide

theorem units_sameColumns_order :
    (∀ field ∈ orderModel.fields, field.name ≠ "") ∧
      ∃ mapper, Generator.standard.interface 4 orderModel = .ok mapper ∧
        SameColumns .standard 4 orderModel (Generator.standard.support orderModel) mapper := by
  have named : ∀ field ∈ orderModel.fields, field.name ≠ "" := by decide
  exact ⟨named, (units_sameColumns .standard named).1 4⟩

end SqlScaffold
