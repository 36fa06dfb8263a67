import SqlScaffold.Proofs.Text.Literal
import SqlScaffold.Proofs.Units.Opening

/-!
The text of a table support. It has a constant and a field for every column, each with the type of
the column, and all that it is written from can be read back.
-/

namespace SqlScaffold

open Text Source Template

namespace TableSupport

variable (support : TableSupport) (indent : String)

def constantLine (column : Column) : String :=
  indent ++ "public static final SqlColumn<" ++ support.writtenType column.valueType ++ "> " ++
    column.fieldName ++ " = " ++ support.instanceName ++ "." ++ column.fieldName ++ ";"

def fieldLine (column : Column) : String :=
  indent ++ indent ++ "public final SqlColumn<" ++ support.writtenType column.valueType ++ "> " ++
    column.fieldName ++ " = column(" ++ sourceLiteral column.columnName ++ ", JDBCType." ++
    column.storage.name ++ ");"

def constantLines : List String :=
  ("public final class " ++ support.name ++ " \x7b") ::
    (indent ++ "public static final " ++ support.entityName ++ " " ++ support.instanceName ++
      " = new " ++ support.entityName ++ "();") ::
    support.columns.map (support.constantLine indent)

def fieldLines : List String :=
  (indent ++ "public static final class " ++ support.entityName ++ " extends AliasableSqlTable<" ++
      support.entityName ++ "> \x7b") ::
    support.columns.map (support.fieldLine indent)

def constructorLines : List String :=
  [indent ++ indent ++ "public " ++ support.entityName ++ "() \x7b",
    indent ++ indent ++ indent ++ "super(" ++ sourceLiteral support.tableName ++ ", " ++
      support.entityName ++ "::new);",
    indent ++ indent ++ "\x7d", indent ++ "\x7d"]

def paragraphs : List (List String) :=
  [support.constantLines indent, support.fieldLines indent, support.constructorLines indent]

structure HasUnbrokenTexts : Prop where
  name : IsUnbroken support.name
  entityName : IsUnbroken support.entityName
  instanceName : IsUnbroken support.instanceName
  tableName : IsUnbroken support.tableName
  fieldName : ∀ column ∈ support.columns, IsUnbroken column.fieldName
  columnName : ∀ column ∈ support.columns, IsUnbroken column.columnName
  writtenType : ∀ column ∈ support.columns, IsUnbroken (support.writtenType column.valueType)

variable {support indent}

theorem isKept_constantLine (unbroken : support.HasUnbrokenTexts) (blank : IsUnbroken indent)
    {column : Column} (member : column ∈ support.columns) :
    IsKept (support.constantLine indent column) := by
  have field := unbroken.fieldName column member
  have type := unbroken.writtenType column member
  have inst := unbroken.instanceName
  refine .append ?_ (by decide)
  simp only [isUnbroken_append]
  and_intros <;> first | with_reducible assumption | exact isUnbroken_literal (by decide)

theorem isKept_fieldLine (unbroken : support.HasUnbrokenTexts) (blank : IsUnbroken indent)
    {column : Column} (member : column ∈ support.columns) :
    IsKept (support.fieldLine indent column) := by
  have field := unbroken.fieldName column member
  have type := unbroken.writtenType column member
  have literal := (unbroken.columnName column member).sourceLiteral
  have storage := column.storage.isUnbroken_name
  refine .append ?_ (by decide)
  simp only [isUnbroken_append]
  and_intros <;> first | with_reducible assumption | exact isUnbroken_literal (by decide)

theorem isParagraph_of_mem_paragraphs (unbroken : support.HasUnbrokenTexts)
    (blank : IsUnbroken indent) :
    ∀ lines ∈ support.paragraphs indent, IsParagraph lines := by
  have name := unbroken.name
  have entity := unbroken.entityName
  have inst := unbroken.instanceName
  have literal := unbroken.tableName.sourceLiteral
  simp only [paragraphs, List.forall_mem_cons, constantLines, fieldLines, constructorLines,
    IsParagraph, List.forall_mem_map, List.not_mem_nil, false_imp_iff, implies_true, and_true]
  refine ⟨⟨List.cons_ne_nil _ _, ?head, ?inst, ?constants⟩, ⟨List.cons_ne_nil _ _, ?table, ?fields⟩,
    ⟨List.cons_ne_nil _ _, ?start, ?super, ?stop, ?close⟩⟩
  case constants => exact fun column member => isKept_constantLine unbroken blank member
  case fields => exact fun column member => isKept_fieldLine unbroken blank member
  case close => exact .append blank (by decide)
  all_goals
    refine .append ?_ (by decide)
    simp only [isUnbroken_append]
    and_intros <;> first | with_reducible assumption | exact isUnbroken_literal (by decide)

section Rendered

variable (support) (settings : Settings) (width : Nat) (model : Model)

theorem renderAll_constants :
    renderAll (support.entries ++ Generator.commonEntries settings width model)
      [.each "column" (.variable "columns") columnConstant] =
      .ok (textOf (support.columns.map (support.constantLine (repeated width ' ')))) := by
  rw [List.map_eq_flatMap]
  refine renderAll_each (fun column => .object (support.columnEntries column)) rfl
    fun column _ => ?_
  simp [columnConstant, renderAll, Part.render, Form.write, Reference.value, Entries.get?,
    columnEntries, entries, Generator.commonEntries, List.lookup_cons, value, member, Value.shown,
    bind, Except.bind, Except.map, textOf, constantLine, String.append_assoc]

theorem renderAll_fields :
    renderAll (support.entries ++ Generator.commonEntries settings width model)
      [.each "column" (.variable "columns") columnField] =
      .ok (textOf (support.columns.map (support.fieldLine (repeated width ' ')))) := by
  rw [List.map_eq_flatMap]
  refine renderAll_each (fun column => .object (support.columnEntries column)) rfl
    fun column _ => ?_
  simp [columnField, renderAll, Part.render, Form.write, Reference.value, Entries.get?,
    columnEntries, entries, Generator.commonEntries, List.lookup_cons, value, member, Value.shown,
    bind, Except.bind, Except.map, textOf, fieldLine, String.append_assoc]

theorem renderAll_class :
    renderAll (support.entries ++ Generator.commonEntries settings width model)
      (tableSupport.drop 4) =
      .ok (textOf (layOut (support.paragraphs (repeated width ' ')) ++ ["\x7d"])) := by
  have head : renderAll (support.entries ++ Generator.commonEntries settings width model)
      [.text "public final class ", value "name", .text " \x7b\n",
        value "ind", .text "public static final ", value "entity_name", .text " ",
        value "instance_name", .text " = new ", value "entity_name", .text "();\n"] =
      .ok (textOf ((support.constantLines (repeated width ' ')).take 2)) := by
    simp [constantLines, renderAll, Part.render, Form.write, Reference.value, Entries.get?,
      entries, Generator.commonEntries, List.lookup_cons, value, Value.shown,
      bind, Except.bind, Except.map, textOf, ← String.toList_inj]
  have table : renderAll (support.entries ++ Generator.commonEntries settings width model)
      [.text "\n", value "ind", .text "public static final class ", value "entity_name",
        .text " extends AliasableSqlTable<", value "entity_name", .text "> \x7b\n"] =
      .ok (textOf ("" :: (support.fieldLines (repeated width ' ')).take 1)) := by
    simp [fieldLines, renderAll, Part.render, Form.write, Reference.value, Entries.get?,
      entries, Generator.commonEntries, List.lookup_cons, value, Value.shown,
      bind, Except.bind, Except.map, textOf, ← String.toList_inj]
  have tail : renderAll (support.entries ++ Generator.commonEntries settings width model)
      [.text "\n", value "ind", value "ind", .text "public ", value "entity_name",
        .text "() \x7b\n", value "ind", value "ind", value "ind", .text "super(",
        .write (.variable "table_name") .literal, .text ", ", value "entity_name",
        .text "::new);\n", value "ind", value "ind", .text "\x7d\n", value "ind", .text "\x7d\n",
        .text "\x7d\n"] =
      .ok (textOf ("" :: support.constructorLines (repeated width ' ') ++ ["\x7d"])) := by
    simp [constructorLines, renderAll, Part.render, Form.write, Reference.value, Entries.get?,
      entries, Generator.commonEntries, List.lookup_cons, value, Value.shown,
      bind, Except.bind, Except.map, textOf, ← String.toList_inj]
  have constants := renderAll_constants support settings width model
  have fields := renderAll_fields support settings width model
  have whole := renderAll_append head (renderAll_append constants
    (renderAll_append table (renderAll_append fields tail)))
  refine whole.trans (congrArg Except.ok ?_)
  simp only [← textOf_append]
  simp [layOut, paragraphs, constantLines, fieldLines]

end Rendered

structure HasDerivedNames (support : TableSupport) : Prop where
  inst : support.instanceName = Naming.instanceName support.entityName
  column : ∀ column ∈ support.columns, column.columnName = Naming.columnName column.fieldName
  pointless : ∀ column ∈ support.columns, '.' ∉ column.fieldName.toList

def rows (support : TableSupport) : List ((String × String × StorageType) × String) :=
  support.columns.map fun column => (column.stored, support.writtenType column.valueType)

section Read

variable {first second : TableSupport} {indent : String}

theorem constructorLines_inj
    (same : first.constructorLines indent = second.constructorLines indent) :
    first.entityName = second.entityName ∧ first.tableName = second.tableName := by
  simp only [constructorLines, List.cons.injEq, String.append_left_inj, String.append_right_inj,
    and_true] at same
  obtain ⟨entity, call⟩ := same
  rw [entity] at call
  simp only [String.append_left_inj, String.append_right_inj] at call
  exact ⟨entity, sourceLiteral_inj call⟩

/-- The name of a field stands behind the last point of its constant. -/
theorem constantLine_inj (inst : first.instanceName = second.instanceName) {column other : Column}
    (pointless : '.' ∉ column.fieldName.toList) (also : '.' ∉ other.fieldName.toList)
    (same : first.constantLine indent column = second.constantLine indent other) :
    column.fieldName = other.fieldName ∧
      first.writtenType column.valueType = second.writtenType other.valueType := by
  have parts := congrArg splitType (String.append_left_inj _ |>.mp same)
  rw [splitType_append _ pointless, splitType_append _ also, Prod.mk.injEq, inst] at parts
  obtain ⟨before, field⟩ := parts
  rw [field] at before
  simp only [String.append_left_inj, String.append_right_inj] at before
  exact ⟨field, before⟩

theorem storage_of_fieldLine {column other : Column} (field : column.fieldName = other.fieldName)
    (name : column.columnName = other.columnName)
    (type : first.writtenType column.valueType = second.writtenType other.valueType)
    (same : first.fieldLine indent column = second.fieldLine indent other) :
    column.storage = other.storage := by
  rw [fieldLine, fieldLine, field, name, type] at same
  simp only [String.append_left_inj, String.append_right_inj] at same
  exact StorageType.name_inj same

/-- The paragraphs of the class determine all that it says. -/
theorem paragraphs_inj (names : first.HasDerivedNames) (others : second.HasDerivedNames)
    (same : first.paragraphs indent = second.paragraphs indent) :
    first.entityName = second.entityName ∧ first.tableName = second.tableName ∧
      first.rows = second.rows := by
  simp only [paragraphs, List.cons.injEq, and_true] at same
  obtain ⟨constants, fields, constructor⟩ := same
  obtain ⟨entity, table⟩ := constructorLines_inj constructor
  have inst : first.instanceName = second.instanceName := by rw [names.inst, others.inst, entity]
  simp only [constantLines, List.cons.injEq] at constants
  simp only [fieldLines, List.cons.injEq] at fields
  refine ⟨entity, table, Column.map_eq_map_of_both constants.2.2 fields.2 ?_⟩
  intro column inside other member constant field
  obtain ⟨name, type⟩ := constantLine_inj inst (names.pointless column inside)
    (others.pointless other member) constant
  have stored : column.columnName = other.columnName := by
    rw [names.column column inside, others.column other member, name]
  rw [Column.stored, name, stored, type, storage_of_fieldLine name stored type field]
  rfl

end Read

end TableSupport

namespace Generator

section Support

variable {generator : Generator} {model : Model}

theorem support_imports_ne_nil (generator : Generator) (model : Model) :
    (generator.support model).imports ≠ [] := by
  have table : TableSupport.tableImport ∈
      TableSupport.fixedImports (model.columns generator.mapping) := by
    unfold TableSupport.fixedImports
    split <;> simp
  exact List.ne_nil_of_mem ((mem_ascending _ _).mpr (List.mem_append_left _ table))

theorem support_hasDerivedNames (pointless : ∀ column ∈ model.columns generator.mapping,
    '.' ∉ column.fieldName.toList) : (generator.support model).HasDerivedNames where
  inst := rfl
  column := by
    intro column inside
    obtain ⟨field, _, rfl⟩ := List.mem_map.mp inside
    rfl
  pointless

variable (unbroken : model.HasUnbrokenTexts)

include unbroken

theorem support_hasUnbrokenTexts (suffixes : generator.settings.HasUnbrokenSuffixes) :
    (generator.support model).HasUnbrokenTexts where
  name := isUnbroken_append.mpr ⟨unbroken.name, suffixes.support⟩
  entityName := unbroken.name
  instanceName := Naming.isUnbroken_instanceName unbroken.name
  tableName := unbroken.tableName
  fieldName := fun _ inside => unbroken.fieldName inside
  columnName := fun _ inside => unbroken.columnName inside
  writtenType := by
    intro column inside
    have written := TableSupport.writtenType_ofModel generator.settings generator.mapping inside
    exact written ▸ isUnbroken_spelling _ (unbroken.valueType inside)

variable (generator) in
theorem support_imports : (generator.support model).imports ≠ [] ∧
    ∀ imported ∈ (generator.support model).imports, IsUnbroken imported := by
  have fixed : ∀ imported ∈ TableSupport.fixedImports (model.columns generator.mapping),
      IsUnbroken imported := by
    unfold TableSupport.fixedImports
    split <;> decide
  refine ⟨support_imports_ne_nil generator model, fun imported inside => ?_⟩
  rcases List.mem_append.mp ((mem_ascending _ _).mp inside) with standing | needed
  · exact fixed imported standing
  · exact isUnbroken_of_resolve (unbroken.valueTypes _) imported needed

def supportParagraphs (generator : Generator) (width : Nat) (model : Model) :
    List (List String) :=
  openingParagraphs generator.settings model (generator.support model).imports ++
    (generator.support model).paragraphs (repeated width ' ')

theorem renderAll_support (width : Nat) :
    renderAll ((generator.support model).entries ++ commonEntries generator.settings width model)
      tableSupport =
      .ok (textOf (layOut (generator.supportParagraphs width model) ++ ["\x7d"])) := by
  have opening : renderAll
      ((generator.support model).entries ++ commonEntries generator.settings width model) opening =
        .ok (textOf ((openingParagraphs generator.settings model
          (generator.support model).imports).flatMap (· ++ [""]))) :=
    renderAll_opening_eq unbroken rfl rfl rfl
  have whole := renderAll_append opening
    (TableSupport.renderAll_class (generator.support model) generator.settings width model)
  have nonempty : (generator.support model).paragraphs (repeated width ' ') ≠ [] :=
    List.cons_ne_nil _ _
  rw [textOf_layOut_append _ nonempty] at whole
  exact whole

theorem support_body (shipped : generator.library = .shipped) {width : Nat} {unit : SourceUnit}
    (rendered : generator.render width tableSupportName model (generator.support model).entries
      (generator.support model).name = .ok unit) :
    unit.body =
      normalize (textOf (layOut (generator.supportParagraphs width model) ++ ["\x7d"])) := by
  have found : generator.library.find tableSupportName = .ok tableSupport :=
    shipped ▸ find_tableSupport
  obtain ⟨text, written, body⟩ := renderAll_of_render found rendered
  rw [body, Except.ok.inj (written.symm.trans (renderAll_support unbroken width))]

theorem isParagraph_of_mem_support (suffixes : generator.settings.HasUnbrokenSuffixes)
    (width : Nat) : ∀ lines ∈ generator.supportParagraphs width model, IsParagraph lines := by
  obtain ⟨nonempty, plain⟩ := support_imports generator unbroken
  exact List.forall_mem_append.mpr ⟨paragraphs_opening unbroken nonempty plain,
    TableSupport.isParagraph_of_mem_paragraphs (support_hasUnbrokenTexts unbroken suffixes)
      (isUnbroken_repeated width)⟩

end Support

end Generator

end SqlScaffold
