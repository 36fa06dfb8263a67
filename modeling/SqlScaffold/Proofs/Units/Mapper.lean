import SqlScaffold.Proofs.Units.Methods

/-!
The text of a mapper. After its head, an interface has a paragraph for every method, and what it
says about the columns and the key can be read back from three of them.
-/

namespace SqlScaffold

open Text Source Template

namespace Mapper

namespace Interface

variable (mapper : Interface) (indent : String)

def headLines : List String :=
  ["public interface " ++ mapper.name ++ " extends " ++ joinWith ", " mapper.superInterfaces ++
      " \x7b",
    indent ++ "BasicColumn[] selectList = BasicColumn.columnList(" ++
      joinWith ", " mapper.selectList ++ ");"]

def paragraphs : List (List String) :=
  mapper.headLines indent :: mapper.operations.map fun operation => operation.lines indent

section Rendered

variable {mapper} {settings : Settings} {width : Nat}

theorem renderAll_interface (model : Model)
    (kept : ∀ operation ∈ mapper.operations, operation.HasKeptLines)
    (counted : blankCount settings.indentSize = .ok width)
    (twice : blankCount (settings.indentSize * 2) = .ok (width + width)) :
    renderAll (mapper.entries ++ Generator.commonEntries settings width model)
      (Template.mapper.drop 4) =
      .ok (textOf (layOut (mapper.paragraphs (repeated width ' ')) ++ ["\x7d"])) := by
  have head : renderAll (mapper.entries ++ Generator.commonEntries settings width model)
      [.text "public interface ", value "name", .text " extends ",
        .write (.variable "super_interfaces") (.joined ", "), .text " \x7b\n",
        value "ind", .text "BasicColumn[] selectList = BasicColumn.columnList(",
        .write (.variable "select_list") (.joined ", "), .text ");\n"] =
      .ok (textOf (mapper.headLines (repeated width ' '))) := by
    simp [headLines, renderAll, Part.render, Form.write, Reference.value, Entries.get?,
      entries, Generator.commonEntries, List.lookup_cons, value, Value.shown, membersOf,
      Value.members?, Function.comp_def, bind, Except.bind, Except.map, textOf, ← String.toList_inj]
  have methods : renderAll (mapper.entries ++ Generator.commonEntries settings width model)
      [.each "operation" (.variable "operations") Template.operation] =
      .ok (textOf (mapper.operations.flatMap fun operation =>
        "" :: operation.lines (repeated width ' '))) :=
    renderAll_each (fun operation => .object (operationEntries operation)) rfl
      fun operation inside => (kept operation inside).renderAll_operation counted twice rfl rfl
  have last : renderAll (mapper.entries ++ Generator.commonEntries settings width model)
      [.text "\x7d\n"] = .ok (textOf ["\x7d"]) := rfl
  have whole := renderAll_append head (renderAll_append methods last)
  refine whole.trans (congrArg Except.ok ?_)
  simp [layOut, paragraphs, List.flatMap_map]

end Rendered

end Interface

namespace Operation

variable {first second : Operation} {indent : String}

theorem bodyLines_inj (same : first.bodyLines indent = second.bodyLines indent) :
    first.signature = second.signature ∧ first.body = second.body := by
  simp only [bodyLines, List.cons_append, List.cons.injEq, String.append_left_inj,
    String.append_right_inj] at same
  refine ⟨same.1, List.map_injective_iff.mpr ?_ (List.append_cancel_right same.2)⟩
  exact fun line other equal => String.append_right_inj _ |>.mp equal

theorem lines_eq_bodyLines {operation : Operation} (unmarked : operation.annotations = [])
    (current : operation.legacy = false) (default : operation.isDefault) :
    operation.lines indent = operation.bodyLines indent := by
  simp [lines, markLines, unmarked, current, default]

theorem markLines_inj (legacy : first.legacy) (also : second.legacy) (abstract : first.isDefault = false)
    (alsoAbstract : second.isDefault = false) (same : first.lines indent = second.lines indent) :
    first.markLines = second.markLines := by
  simp only [lines, legacy, also, abstract, alsoAbstract, if_true, Bool.false_eq_true,
    if_false] at same
  refine List.map_injective_iff.mpr ?_ (List.append_inj_left' same rfl)
  exact fun line other equal => String.append_right_inj _ |>.mp equal

end Operation

namespace Subject

variable {first second : Subject} {indent : String}

theorem insert_inj (same : first.insert.lines indent = second.insert.lines indent) :
    first.entity = second.entity ∧ first.insert.body = second.insert.body := by
  rw [Operation.lines_eq_bodyLines rfl rfl rfl, Operation.lines_eq_bodyLines rfl rfl rfl] at same
  obtain ⟨signature, body⟩ := Operation.bodyLines_inj same
  simp only [Operation.signature, insert, List.map_cons, List.map_nil, joinWith,
    String.append_left_inj, String.append_right_inj] at signature
  exact ⟨signature, body⟩

/-- A line that maps a field names it twice. -/
theorem fieldNames_of_insert (support : first.support = second.support)
    (indents : first.indent = second.indent) (same : first.insert.body = second.insert.body) :
    first.columns.map Column.fieldName = second.columns.map Column.fieldName := by
  simp only [insert, List.cons_append, List.cons.injEq] at same
  have lines := List.append_cancel_right same.2
  refine Column.map_eq_map_of_both lines lines fun column _ other _ line _ => ?_
  simp only [columnConstant, support, indents, String.append_left_inj] at line
  have sizes := congrArg String.length line
  simp only [String.length_append] at sizes
  have chars := congrArg String.toList line
  simp only [String.toList_append] at chars
  refine String.toList_inj.mp (List.append_inj_right' chars ?_)
  simp only [String.length_toList]
  omega

theorem storage_of_resultEntry (indents : first.indent = second.indent) {column other : Column}
    (field : column.fieldName = other.fieldName) (name : column.columnName = other.columnName)
    (key : column.primaryKey = other.primaryKey)
    (same : first.resultEntry column = second.resultEntry other) :
    column.storage = other.storage := by
  rw [resultEntry, resultEntry, indents, field, name, key] at same
  simp only [String.append_left_inj, String.append_right_inj] at same
  exact StorageType.name_inj same

structure HasDerivedNames (subject : Subject) : Prop where
  column : ∀ column ∈ subject.columns, column.columnName = Naming.columnName column.fieldName
  key : ∀ column ∈ subject.columns, column.primaryKey = (column.fieldName == identityName)

/-- As many columns on both sides have the same entries if the annotations are the same. -/
theorem resultEntries_inj (sizes : first.columns.length = second.columns.length)
    (same : first.resultsLines = second.resultsLines) :
    first.columns.map first.resultEntry = second.columns.map second.resultEntry := by
  unfold resultsLines at same
  by_cases empty : first.columns.isEmpty
  · have noColumns : first.columns = [] := by simpa using empty
    have also : second.columns = [] := by
      rw [← List.length_eq_zero_iff, ← sizes, noColumns]
      rfl
    rw [noColumns, also]
    rfl
  · have nonempty : ¬second.columns.isEmpty := by
      rw [List.isEmpty_iff_length_eq_zero, ← sizes, ← List.isEmpty_iff_length_eq_zero]
      exact empty
    rw [if_neg empty, if_neg nonempty] at same
    exact commaEnded_inj (List.append_cancel_right (List.cons.inj same).2)

theorem findById_inj (entity : first.entity = second.entity) {keyType other : String}
    (same : (first.findById keyType).lines indent = (second.findById other).lines indent) :
    keyType = other := by
  rw [Operation.lines_eq_bodyLines rfl rfl rfl, Operation.lines_eq_bodyLines rfl rfl rfl] at same
  have signature := (Operation.bodyLines_inj same).1
  simp only [Operation.signature, findById, entity, List.map_cons, List.map_nil, joinWith,
    String.append_left_inj, String.append_right_inj] at signature
  exact signature

/-- The columns of a mapper are read back from the methods that do not use the key. -/
theorem stored_of_common (unbroken : first.HasUnbrokenTexts) (also : second.HasUnbrokenTexts)
    (derived : first.HasDerivedNames) (alsoDerived : second.HasDerivedNames)
    (support : first.entity = second.entity → first.support = second.support)
    (indents : first.indent = second.indent)
    (same : first.commonOperations.map (fun operation => operation.lines indent) =
      second.commonOperations.map (fun operation => operation.lines indent)) :
    first.entity = second.entity ∧
      first.columns.map Column.stored = second.columns.map Column.stored := by
  simp only [commonOperations, List.map_cons, List.cons.injEq] at same
  obtain ⟨insert, select, _⟩ := same
  obtain ⟨entity, body⟩ := insert_inj insert
  have names := fieldNames_of_insert (support entity) indents body
  have marks := Operation.markLines_inj rfl rfl rfl rfl select
  rw [unbroken.markLines_selectOneStatement, also.markLines_selectOneStatement] at marks
  have entries := resultEntries_inj (by simpa using congrArg List.length names)
    (List.cons.inj marks).2
  refine ⟨entity, Column.map_eq_map_of_both names entries ?_⟩
  intro column inside other member field entry
  have stored : column.columnName = other.columnName := by
    rw [derived.column column inside, alsoDerived.column other member, field]
  have key : column.primaryKey = other.primaryKey := by
    rw [derived.key column inside, alsoDerived.key other member, field]
  rw [Column.stored, field, stored, storage_of_resultEntry indents field stored key entry]
  rfl

end Subject

section Imports

variable (settings : Settings) (mapping : TypeMapping) (supportName : String) (model : Model)
  (width other : Nat)

theorem flatMap_imports_common :
    (Subject.ofModel settings mapping width supportName model).commonOperations.flatMap
        Operation.imports =
      (Subject.ofModel settings mapping other supportName model).commonOperations.flatMap
        Operation.imports := rfl

/-- The imports of a mapper do not depend on its indentation. -/
theorem imports_of_eq :
    (Interface.of settings mapping width supportName model).imports =
      (Interface.of settings mapping other supportName model).imports := by
  have common := flatMap_imports_common settings mapping supportName model width other
  have references (key : Column) :
      keyReferences model (Subject.ofModel settings mapping width supportName model) key =
        keyReferences model (Subject.ofModel settings mapping other supportName model) key := by
    rw [keyReferences, reservedForKey, common]
    rfl
  simp only [Interface.of, List.flatMap_append, common, keyedOperations, keyImports,
    Subject.key?_ofModel, references]
  cases model.identity? with
  | none => rfl
  | some key => rfl

end Imports

theorem Interface.isParagraph_headLines {mapper : Interface} {indent : String}
    (blank : IsUnbroken indent) (name : IsUnbroken mapper.name)
    (extended : ∀ interface ∈ mapper.superInterfaces, IsUnbroken interface)
    (selected : ∀ column ∈ mapper.selectList, IsUnbroken column) :
    IsParagraph (mapper.headLines indent) := by
  have supers : IsUnbroken (joinWith ", " mapper.superInterfaces) :=
    .joinWith (by decide) extended
  have list : IsUnbroken (joinWith ", " mapper.selectList) := .joinWith (by decide) selected
  refine ⟨List.cons_ne_nil _ _, ?_⟩
  simp only [headLines, List.forall_mem_cons, List.not_mem_nil, false_imp_iff, implies_true,
    and_true]
  constructor
  all_goals
    refine .append ?_ (by decide)
    simp only [isUnbroken_append]
    and_intros <;> first | with_reducible assumption | exact isUnbroken_literal (by decide)

end Mapper

namespace Generator

section Mapper

variable {generator : Generator} {width : Nat} {model : Model}

def subject (generator : Generator) (width : Nat) (model : Model) : Mapper.Subject :=
  .ofModel generator.settings generator.mapping width (generator.support model).name model

def mapper (generator : Generator) (width : Nat) (model : Model) : Mapper.Interface :=
  .of generator.settings generator.mapping width (generator.support model).name model

theorem subject_hasDerivedNames : (generator.subject width model).HasDerivedNames where
  column := by
    intro column inside
    obtain ⟨field, _, rfl⟩ := List.mem_map.mp inside
    rfl
  key := by
    intro column inside
    obtain ⟨field, _, rfl⟩ := List.mem_map.mp inside
    rfl

theorem blankCount_of_mapper_render (shipped : generator.library = .shipped) {unit : SourceUnit}
    (rendered : generator.render width mapperName model (generator.mapper width model).entries
      (generator.mapper width model).name = .ok unit) :
    ∃ twice, blankCount (generator.settings.indentSize * 2) = .ok twice := by
  have insert : (generator.subject width model).insert ∈ (generator.mapper width model).operations :=
    List.mem_cons_self
  exact blankCount_of_render shipped insert rfl rendered

theorem mapper_imports_ne_nil (generator : Generator) (width : Nat) (model : Model) :
    (generator.mapper width model).imports ≠ [] := by
  have basic : Mapper.basicColumn ∈ Mapper.standingImports (model.columns generator.mapping) := by
    simp [Mapper.standingImports, Mapper.fixedImports]
  exact List.ne_nil_of_mem ((Mapper.mem_imports_of _ _ _ _ _).mpr (.inl basic))

variable (unbroken : model.HasUnbrokenTexts)

include unbroken

theorem isUnbroken_keyType {key : Column} (member : key ∈ model.columns generator.mapping) :
    IsUnbroken (Mapper.keyTypeOf model (generator.subject width model) key) := by
  unfold Mapper.keyTypeOf Mapper.keyReferences
  rw [lookup_written_resolve _ _ List.mem_cons_self]
  exact isUnbroken_spelling _ (unbroken.valueType member)

variable (generator width) in
theorem mapper_imports : (generator.mapper width model).imports ≠ [] ∧
    ∀ imported ∈ (generator.mapper width model).imports, IsUnbroken imported := by
  have known : ∀ imported ∈ Mapper.vocabulary, IsUnbroken imported := by
    simp only [Mapper.vocabulary, Mapper.fixedImports, Mapper.commonInterfaces, List.map_cons,
      List.map_nil, Mapper.keyOperationImports, List.cons_append, List.nil_append,
      List.forall_mem_cons, List.not_mem_nil, false_imp_iff, implies_true, and_true,
      isUnbroken_append]
    and_intros <;> exact isUnbroken_literal (by decide)
  refine ⟨mapper_imports_ne_nil generator width model, fun imported inside => ?_⟩
  rcases (Mapper.mem_imports_of _ _ _ _ _).mp inside with standing | needed
  · exact known imported (Mapper.mem_vocabulary _ imported standing)
  · unfold Mapper.keyImports at needed
    split at needed
    · cases needed
    · next key found =>
      have type := unbroken.valueType (List.mem_of_find?_eq_some found)
      exact isUnbroken_of_resolve (List.forall_mem_singleton.mpr type) imported needed

variable (suffixes : generator.settings.HasUnbrokenSuffixes)

include suffixes

theorem subject_hasUnbrokenTexts : (generator.subject width model).HasUnbrokenTexts where
  entity := unbroken.name
  support := isUnbroken_append.mpr ⟨unbroken.name, suffixes.support⟩
  resultMap := isUnbroken_append.mpr ⟨unbroken.name, suffixes.resultMap⟩
  indent := isUnbroken_repeated width
  fieldName := fun _ inside => unbroken.fieldName inside
  columnName := fun _ inside => unbroken.columnName inside

theorem mapper_hasKeptLines :
    ∀ operation ∈ (generator.mapper width model).operations, operation.HasKeptLines := by
  have texts : (generator.subject width model).HasUnbrokenTexts :=
    subject_hasUnbrokenTexts unbroken suffixes
  refine List.forall_mem_append.mpr ⟨texts.hasKeptLines_common, ?_⟩
  unfold Mapper.keyedOperations
  split
  · simp
  · next key found =>
    have inside := List.mem_of_find?_eq_some found
    exact texts.hasKeptLines_keyed inside (isUnbroken_keyType unbroken inside)

theorem mapper_headLines :
    IsParagraph ((generator.mapper width model).headLines (repeated width ' ')) := by
  refine Mapper.Interface.isParagraph_headLines (isUnbroken_repeated width)
    (isUnbroken_append.mpr ⟨unbroken.name, suffixes.mapper⟩) ?extended ?selected
  case extended =>
    have insert : IsUnbroken ("CommonInsertMapper<" ++ model.name ++ ">") :=
      isUnbroken_append.mpr ⟨isUnbroken_append.mpr ⟨by decide, unbroken.name⟩, by decide⟩
    have others : ∀ name ∈ ["CommonCountMapper", "CommonUpdateMapper", "CommonDeleteMapper"],
      IsUnbroken name := by decide
    change ∀ interface ∈ ["CommonCountMapper", "CommonInsertMapper<" ++ model.name ++ ">",
      "CommonUpdateMapper", "CommonDeleteMapper"], IsUnbroken interface
    simp only [List.forall_mem_cons] at others ⊢
    exact ⟨others.1, insert, others.2⟩
  case selected =>
    intro column inside
    obtain ⟨origin, member, rfl⟩ := List.mem_map.mp inside
    have texts : (generator.subject width model).HasUnbrokenTexts :=
      subject_hasUnbrokenTexts unbroken suffixes
    exact texts.columnConstant (unbroken.fieldName member)

def mapperParagraphs (generator : Generator) (width : Nat) (model : Model) : List (List String) :=
  openingParagraphs generator.settings model (generator.mapper width model).imports ++
    (generator.mapper width model).paragraphs (repeated width ' ')

theorem isParagraph_of_mem_mapper (width : Nat) :
    ∀ lines ∈ generator.mapperParagraphs width model, IsParagraph lines := by
  obtain ⟨nonempty, plain⟩ := mapper_imports generator width unbroken
  refine List.forall_mem_append.mpr ⟨paragraphs_opening unbroken nonempty plain,
    List.forall_mem_cons.mpr ⟨mapper_headLines unbroken suffixes, List.forall_mem_map.mpr ?_⟩⟩
  exact fun operation inside =>
    (mapper_hasKeptLines unbroken suffixes operation inside).isParagraph (isUnbroken_repeated width)

theorem renderAll_mapper (counted : generator.settings.indentWidth = .ok width) {twice : Nat}
    (doubled : blankCount (generator.settings.indentSize * 2) = .ok twice) :
    renderAll ((generator.mapper width model).entries ++
        commonEntries generator.settings width model) Template.mapper =
      .ok (textOf (layOut (generator.mapperParagraphs width model) ++ ["\x7d"])) := by
  rw [blankCount_twice counted doubled] at doubled
  have opening : renderAll ((generator.mapper width model).entries ++
      commonEntries generator.settings width model) opening =
        .ok (textOf ((openingParagraphs generator.settings model
          (generator.mapper width model).imports).flatMap (· ++ [""]))) :=
    renderAll_opening_eq unbroken rfl rfl rfl
  have whole := renderAll_append opening (Mapper.Interface.renderAll_interface model
    (mapper_hasKeptLines unbroken suffixes) counted doubled)
  have nonempty : (generator.mapper width model).paragraphs (repeated width ' ') ≠ [] :=
    List.cons_ne_nil _ _
  rw [textOf_layOut_append _ nonempty] at whole
  exact whole

theorem mapper_body (shipped : generator.library = .shipped)
    (counted : generator.settings.indentWidth = .ok width) {unit : SourceUnit}
    (rendered : generator.render width mapperName model (generator.mapper width model).entries
      (generator.mapper width model).name = .ok unit) :
    unit.body =
      normalize (textOf (layOut (generator.mapperParagraphs width model) ++ ["\x7d"])) := by
  have found : generator.library.find mapperName = .ok Template.mapper := shipped ▸ find_mapper
  obtain ⟨text, written, body⟩ := renderAll_of_render found rendered
  obtain ⟨twice, doubled⟩ := blankCount_of_mapper_render shipped rendered
  rw [body, Except.ok.inj (written.symm.trans (renderAll_mapper unbroken suffixes counted doubled))]

end Mapper

end Generator

end SqlScaffold
