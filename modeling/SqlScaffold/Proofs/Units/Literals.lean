import SqlScaffold.Proofs.Columns
import SqlScaffold.Proofs.Units.Mapper
import SqlScaffold.Proofs.Units.Support

/-!
Literals for the names of columns and properties. The class of the table writes the names of columns
as source literals. The mapper puts names between quotes as they are, which makes the same literals
exactly if no name holds a character that a literal escapes. In the final form of both units every
literal stands in one line, unless the name itself ends a line.
-/

namespace SqlScaffold

open Text Source Template Naming Mapper

theorem Naming.isPlain_columnName {name : String} (plain : IsPlain name) :
    IsPlain (columnName name) := by
  have escaped (c : Char) :
      Ranges.contains [(0x22, 0x22), (0x5C, 0x5C)] c = false ↔ c ≠ '\\' ∧ c ≠ '"' := by
    have backslash : c = '\\' ↔ c.toNat = 0x5C := Char.toNat_inj.symm
    have quote : c = '"' ↔ c.toNat = 0x22 := Char.toNat_inj.symm
    rw [Bool.eq_false_iff, ne_eq, Ranges.contains_iff, ne_eq, ne_eq, backslash, quote]
    simp only [List.mem_cons, List.not_mem_nil, or_false, exists_eq_or_imp, exists_eq_left]
    omega
  have passed : ArePassedBy [(0x22, 0x22), (0x5C, 0x5C)] :=
    ⟨by decide, by decide +kernel, by decide⟩
  have split : ∀ c ∈ splitHumps name.toList,
      Ranges.contains [(0x22, 0x22), (0x5C, 0x5C)] c = false := by
    intro c inside
    rcases mem_splitHumps inside with rfl | own
    · decide
    · exact (escaped c).mpr (plain c own)
  intro c inside
  rw [columnName, String.toList_ofList] at inside
  exact (escaped c).mp (passed.lowerAfter split [] c inside)

theorem Text.length_quotes (text : String) : ("\"" ++ text ++ "\"").length = text.length + 2 := by
  rw [String.length_append, String.length_append, Nat.add_right_comm, Nat.add_comm]
  rfl

theorem Text.length_eq_of_append {start middle first second other another : String}
    (longer : first.length ≤ other.length) (also : second.length ≤ another.length)
    (same : start ++ first ++ middle ++ second = start ++ other ++ middle ++ another) :
    second.length = another.length := by
  have sizes := congrArg String.length same
  simp only [String.length_append] at sizes
  omega

section Field

variable (indent className : String) (mapping : TypeMapping) (field : Field)

def columnEnding : String :=
  " = column(" ++ sourceLiteral (columnName field.name) ++ ", JDBCType." ++
    (mapping.storage field.typeName).name ++ ");"

def literalResult : String :=
  "@Result(column = " ++ sourceLiteral (columnName field.name) ++ ", property = " ++
    sourceLiteral field.name ++ ", jdbcType = JdbcType." ++ (mapping.storage field.typeName).name ++
    if field.isIdentity then ", id = true)" else ")"

def propertyEnding : String := ".toProperty(" ++ sourceLiteral field.name ++ ")"

theorem resultText_eq : resultText indent mapping field =
    indent ++ ("@Result(column = " ++ ("\"" ++ columnName field.name ++ "\"") ++ ", property = " ++
      ("\"" ++ field.name ++ "\"") ++ ", jdbcType = JdbcType." ++
        (mapping.storage field.typeName).name ++ if field.isIdentity then ", id = true)" else ")") := by
  simp [resultText, ← String.toList_inj]

theorem written_mapLine : (mapLine indent field).written className =
    indent ++ ".map(" ++ className ++ "." ++ field.name ++ ")" ++
      (".toProperty(" ++ ("\"" ++ field.name ++ "\"") ++ ")") := by
  simp [mapLine, Line.written, ← String.toList_inj]

/-- The annotation of one field has literals exactly if nothing in the field's name is escaped. -/
theorem resultText_eq_iff :
    resultText indent mapping field = indent ++ literalResult mapping field ↔
      IsPlain field.name := by
  rw [resultText_eq]
  unfold literalResult
  constructor
  · intro same
    have column := length_sourceLiteral (columnName field.name)
    have property := length_sourceLiteral field.name
    rw [← length_quotes] at column property
    simp only [String.append_right_inj, String.append_left_inj] at same
    have sizes := length_eq_of_append column property same
    rw [length_quotes] at sizes
    exact length_sourceLiteral_eq_iff.mp sizes.symm
  · intro plain
    rw [sourceLiteral_of_plain plain, sourceLiteral_of_plain (isPlain_columnName plain)]

theorem written_mapLine_eq_iff :
    (mapLine indent field).written className =
        indent ++ ".map(" ++ className ++ "." ++ field.name ++ ")" ++ propertyEnding field ↔
      IsPlain field.name := by
  rw [written_mapLine, propertyEnding, String.append_right_inj, String.append_left_inj,
    String.append_right_inj]
  constructor
  · intro same
    have sizes := congrArg String.length same
    rw [length_quotes] at sizes
    exact length_sourceLiteral_eq_iff.mp sizes.symm
  · exact fun plain => (sourceLiteral_of_plain plain).symm

variable {field}

theorem isKept_columnEnding (unbroken : IsUnbroken field.name) :
    IsKept (columnEnding mapping field) := by
  have column := (isUnbroken_columnName unbroken).sourceLiteral
  have storage := (mapping.storage field.typeName).isUnbroken_name
  refine .append ?_ (by decide)
  simp only [isUnbroken_append]
  and_intros <;> first | with_reducible assumption | exact isUnbroken_literal (by decide)

theorem isKept_literalResult (unbroken : IsUnbroken field.name) :
    IsKept (literalResult mapping field) := by
  have column := (isUnbroken_columnName unbroken).sourceLiteral
  have property := IsUnbroken.sourceLiteral unbroken
  have storage := (mapping.storage field.typeName).isUnbroken_name
  have closed : IsKept (if field.isIdentity then ", id = true)" else ")") := by
    split <;> decide
  refine .append ?_ closed
  simp only [isUnbroken_append]
  and_intros <;> first | with_reducible assumption | exact isUnbroken_literal (by decide)

theorem isKept_propertyEnding (unbroken : IsUnbroken field.name) :
    IsKept (propertyEnding field) :=
  .append (isUnbroken_append.mpr ⟨by decide, IsUnbroken.sourceLiteral unbroken⟩) (by decide)

end Field

theorem Mapper.Subject.mem_resultsLines (subject : Subject) {entry : String}
    (inside : entry ∈ subject.columns.map subject.resultEntry) :
    ∃ comma, entry ++ comma ∈ subject.resultsLines ∧ (comma = "" ∨ comma = ",") := by
  obtain ⟨comma, listed, known⟩ := mem_commaEnded inside
  have nonempty : ¬subject.columns.isEmpty := by
    rintro empty
    simp [List.isEmpty_iff.mp empty] at inside
  refine ⟨comma, ?_, known⟩
  rw [Subject.resultsLines, if_neg nonempty]
  exact List.mem_cons_of_mem _ (List.mem_append_left _ listed)

namespace Mapper.Interface

variable {mapper : Interface} {operation : Operation} {settings : Settings} {model : Model}
  {width : Nat} {text start ending : String}

variable (inside : operation ∈ mapper.operations)
  (written : renderAll (mapper.entries ++ Generator.commonEntries settings width model)
    Template.mapper = .ok text)

include inside written

theorem infix_of_mark (counted : settings.indentWidth = .ok width) {mark : String}
    (marked : mark ∈ operation.annotations) (listed : start ++ ending ∈ splitAtChar '\n' mark) :
    (ending ++ "\n").toList <:+: text.toList := by
  obtain ⟨method, one, within⟩ := renderAll_operation_of_mapper written rfl
    (List.mem_map.mpr ⟨operation, inside, rfl⟩)
  obtain ⟨own, marks, here⟩ := renderAll_mark_of_operation one rfl (List.mem_map_of_mem marked)
  have lines : own = textOf (indentLines width (splitAtChar '\n' mark)) := by
    have nonempty : indentLines width (splitAtChar '\n' mark) ≠ [] := by
      simpa [indentLines] using splitAtChar_ne_nil '\n' mark
    have indented : writeIndented (.ok (.int settings.indentSize)) (.text mark) =
        .ok (joinWith "\n" (indentLines width (splitAtChar '\n' mark))) :=
      writeIndented_counted counted _
    have whole : renderAll (("annotation", .text mark) ::
        ("operation", .object (operationEntries operation)) :: (mapper.entries ++
          Generator.commonEntries settings width model))
        [.write (.variable "annotation") (.indented (.once (.variable "indent_size"))),
          .text "\n"] = .ok (textOf (indentLines width (splitAtChar '\n' mark))) := by
      simp [renderAll, Part.render, Form.write, Width.value, Reference.value, Entries.get?, entries,
        Generator.commonEntries, List.lookup_cons, indented, textOf_eq_joinWith nonempty, bind,
        Except.bind]
    exact Except.ok.inj (marks.symm.trans whole)
  obtain ⟨blanks, member⟩ := exists_mem_indentLines width listed
  rw [← String.append_assoc] at member
  exact (infix_textOf_ending member).trans (lines ▸ here.trans within)

/-- The lines of a body end lines of the interface; of the last one nothing is said. -/
theorem infix_of_body {lines : List String} {last : String} (body : operation.body = lines ++ [last])
    (listed : start ++ ending ∈ lines) : (ending ++ "\n").toList <:+: text.toList := by
  obtain ⟨method, one, within⟩ := renderAll_operation_of_mapper written rfl
    (List.mem_map.mpr ⟨operation, inside, rfl⟩)
  have default : operation.isDefault := by simp [Operation.isDefault, body]
  obtain ⟨own, indented, here⟩ := render_body_of_operation one (congrArg (some ∘ Value.bool) default)
  obtain ⟨twice, doubled⟩ := blankCount_of_twice indented rfl
  have joined : own = textOf (indentLines twice lines) ++
      joinWith "\n" (indentLines twice [last]) := by
    have whole : (Part.write (.member "operation" "body")
        (.indented (.twice (.variable "indent_size")))).render
          (("operation", .object (operationEntries operation)) :: (mapper.entries ++
            Generator.commonEntries settings width model)) =
        .ok (joinWith "\n" (indentLines twice operation.body)) := by
      simp [Part.render, Form.write, Width.value, Reference.value, Entries.get?, entries,
        operationEntries, Generator.commonEntries, List.lookup_cons, Template.doubled,
        writeIndented_counted doubled, bind, Except.bind, Except.map]
    rw [body, indentLines, List.map_append, List.map_singleton, joinWith_append_last] at whole
    exact Except.ok.inj (indented.symm.trans whole)
  obtain ⟨blanks, member⟩ := exists_mem_indentLines twice listed
  rw [← String.append_assoc] at member
  refine (infix_textOf_ending member).trans (List.IsInfix.trans ?_ (here.trans within))
  rw [joined, String.toList_append]
  exact (List.prefix_append _ _).isInfix

end Mapper.Interface

namespace Generator

variable {generator : Generator} {model : Model}

structure WritesLiterals (generator : Generator) (width : Nat) (model : Model)
    (mapper : Interface) : Prop where
  columns : renderAll ((generator.support model).entries ++
      commonEntries generator.settings width model)
    [.each "column" (.variable "columns") columnField] =
      .ok (textOf (model.fields.map fun field => repeated width ' ' ++ repeated width ' ' ++
        "public final SqlColumn<" ++
          (generator.support model).writtenType (boxedType field.typeName) ++ "> " ++ field.name ++
          columnEnding generator.mapping field))
  results : ((mapper.overloads "selectOne").filter Operation.legacy).map Operation.annotations =
    [[Subject.selectMark, resultsText mapper.resultMap
      (model.fields.map fun field => repeated width ' ' ++ literalResult generator.mapping field)]]
  properties : (mapper.overloads "insert").map Operation.body =
    [("return MyBatis3Utils.insert(this::insert, row, " ++ ((generator.support model).name ++ "." ++
        (generator.support model).instanceName) ++ ", c -> c") ::
      model.fields.map (fun field => repeated width ' ' ++ ".map(" ++
        (generator.support model).name ++ "." ++ field.name ++ ")" ++ propertyEnding field) ++
      [");"]]

theorem writesLiterals_iff (generator : Generator) (width : Nat)
    (named : ∀ field ∈ model.fields, field.name ≠ "") :
    generator.WritesLiterals width model (generator.mapper width model) ↔
      ∀ field ∈ model.fields, IsPlain field.name := by
  have same : SameColumns generator width model (generator.support model)
    (generator.mapper width model) := sameColumns_of_named generator width named
  constructor
  · intro writes field inside
    have lines := writes.properties
    rw [same.insert, List.singleton_inj, List.cons_append, List.cons_append, List.cons.injEq] at lines
    have mapped := List.map_inj_left.mp (List.append_cancel_right lines.2) field inside
    exact (written_mapLine_eq_iff _ _ field).mp mapped
  · intro plain
    refine ⟨?columns, ?results, ?properties⟩
    case columns =>
      rw [TableSupport.renderAll_fields, same.declared, List.map_map]
      simp only [columnEnding, TableSupport.fieldLine, Function.comp_def, String.append_assoc]
    case results =>
      rw [same.results]
      congr 4
      exact List.map_congr_left fun field inside =>
        (resultText_eq_iff _ _ field).mpr (plain field inside)
    case properties =>
      rw [same.insert]
      congr 3
      exact List.map_congr_left fun field inside =>
        (written_mapLine_eq_iff _ _ field).mpr (plain field inside)

/-- The units of a model show the literals for the names of one field, each in one line. Only behind
the last annotation stands no comma. -/
structure ShowsLiterals (mapping : TypeMapping) (support mapper : SourceUnit) (field : Field) :
    Prop where
  column : EndsLine (columnEnding mapping field) support.body
  result : ∃ comma, EndsLine (literalResult mapping field ++ comma) mapper.body ∧
    (comma = "" ∨ comma = ",")
  property : EndsLine (propertyEnding field) mapper.body

theorem ShowsLiterals.unbroken {mapping : TypeMapping} {support mapper : SourceUnit} {field : Field}
    (shown : ShowsLiterals mapping support mapper field) : IsUnbroken field.name := by
  have whole := shown.property.unbroken
  simp only [propertyEnding, isUnbroken_append] at whole
  exact isUnbroken_of_sourceLiteral whole.1.2

section Shown

variable {width : Nat} {unit : SourceUnit} {field : Field}

variable (shipped : generator.library = .shipped) (inside : field ∈ model.fields)
  (unbroken : IsUnbroken field.name)

include shipped inside unbroken

theorem endsLine_column (rendered : generator.render width tableSupportName model
      (generator.support model).entries (generator.support model).name = .ok unit) :
    EndsLine (columnEnding generator.mapping field) unit.body := by
  let support := generator.support model
  have found : generator.library.find tableSupportName = .ok (opening ++ tableSupport.drop 4) :=
    shipped ▸ find_tableSupport
  obtain ⟨text, written, body⟩ := renderAll_of_render found rendered
  obtain ⟨before, behind, _, later, rfl⟩ := exists_of_renderAll_append written
  have code : behind = textOf (layOut (support.paragraphs (repeated width ' ')) ++ ["\x7d"]) :=
    Except.ok.inj (later.symm.trans (support.renderAll_class generator.settings width model))
  have listed : repeated width ' ' ++ repeated width ' ' ++ "public final SqlColumn<" ++
      support.writtenType (boxedType field.typeName) ++ "> " ++ field.name ++
      columnEnding generator.mapping field ∈ support.fieldLines (repeated width ' ') := by
    refine List.mem_cons_of_mem _ (List.mem_map.mpr
      ⟨Column.ofField generator.mapping field, List.mem_map_of_mem inside, ?_⟩)
    simp only [TableSupport.fieldLine, columnEnding, Column.ofField, String.append_assoc]
  have laid : ∀ line ∈ support.fieldLines (repeated width ' '),
      line ∈ layOut (support.paragraphs (repeated width ' ')) ++ ["\x7d"] := by
    intro line member
    simp [layOut, TableSupport.paragraphs, member]
  have within : behind.toList <:+: (before ++ behind).toList := by
    rw [String.toList_append]
    exact (List.suffix_append _ _).isInfix
  rw [body]
  refine endsLine_normalize (isKept_columnEnding _ unbroken) (List.IsInfix.trans ?_ within)
  rw [code]
  exact infix_textOf_ending (laid _ listed)

variable (plain : IsPlain field.name) (counted : generator.settings.indentWidth = .ok width)
  (rendered : generator.render width mapperName model (generator.mapper width model).entries
    (generator.mapper width model).name = .ok unit)

include plain rendered

theorem endsLine_property : EndsLine (propertyEnding field) unit.body := by
  have found : generator.library.find mapperName = .ok Template.mapper := shipped ▸ find_mapper
  obtain ⟨text, written, body⟩ := renderAll_of_render found rendered
  have insert : (generator.subject width model).insert ∈
      (generator.mapper width model).operations := List.mem_cons_self
  have listed := List.mem_map_of_mem (f := fun field =>
    (mapLine (repeated width ' ') field).written (generator.support model).name) inside
  rw [(written_mapLine_eq_iff _ _ field).mpr plain] at listed
  rw [body]
  exact endsLine_normalize (isKept_propertyEnding unbroken)
    (Interface.infix_of_body insert written (body_insert _ _ _ _ _)
      (List.mem_cons_of_mem _ listed))

include counted

theorem endsLine_result : ∃ comma,
    EndsLine (literalResult generator.mapping field ++ comma) unit.body ∧
      (comma = "" ∨ comma = ",") := by
  have found : generator.library.find mapperName = .ok Template.mapper := shipped ▸ find_mapper
  obtain ⟨text, written, body⟩ := renderAll_of_render found rendered
  let subject := generator.subject width model
  have select : subject.selectOneStatement ∈ (generator.mapper width model).operations :=
    List.mem_cons_of_mem _ List.mem_cons_self
  have entry : repeated width ' ' ++ literalResult generator.mapping field ∈
      subject.columns.map subject.resultEntry := by
    have columns : subject.columns.map subject.resultEntry =
        model.fields.map (resultText (repeated width ' ') generator.mapping) :=
      results_columns _ _ _ _ _
    rw [← (resultText_eq_iff _ _ field).mpr plain, columns]
    exact List.mem_map_of_mem inside
  obtain ⟨comma, line, known⟩ := subject.mem_resultsLines entry
  rw [String.append_assoc] at line
  have kept : IsKept (literalResult generator.mapping field ++ comma) := by
    have whole := isKept_literalResult generator.mapping unbroken
    rcases known with rfl | rfl
    · simpa using whole
    · exact .append whole.unbroken (by decide)
  have split : repeated width ' ' ++ (literalResult generator.mapping field ++ comma) ∈
      splitAtChar '\n' subject.resultsMark := by
    rw [← Subject.joinWith_resultsLines]
    refine mem_splitAtChar_joinWith ?_ line
    exact (isUnbroken_append.mpr ⟨isUnbroken_repeated width, kept.unbroken⟩).newline_not_mem
  refine ⟨comma, ?_, known⟩
  rw [body]
  exact endsLine_normalize kept (Interface.infix_of_mark select written counted
    (List.mem_cons_of_mem _ List.mem_cons_self) split)

end Shown

/-- Where the units of a model are written, they show the literals of a field without escapes
exactly if nothing in its name ends a line. -/
theorem showsLiterals_iff (shipped : generator.library = .shipped)
    (named : ∀ field ∈ model.fields, field.name ≠ "") {support mapper : SourceUnit}
    (made : generator.units model = .ok [support, mapper]) {field : Field}
    (inside : field ∈ model.fields) (plain : IsPlain field.name) :
    ShowsLiterals generator.mapping support mapper field ↔ IsUnbroken field.name := by
  obtain ⟨width, interface, first, second, counted, formed, supported, mapped, paired⟩ :=
    rendered_of_units made
  obtain ⟨rfl, rfl⟩ : support = first ∧ mapper = second := by simpa using paired
  obtain rfl := Except.ok.inj (formed.symm.trans (Interface.ofModel_eq _ _ width _ named))
  constructor
  · exact ShowsLiterals.unbroken
  · intro unbroken
    exact ⟨endsLine_column shipped inside unbroken supported,
      endsLine_result shipped inside unbroken plain counted mapped,
      endsLine_property shipped inside unbroken plain mapped⟩

def KeepsLiterals (generator : Generator) (model : Model) : Prop :=
  ∃ width interface support mapper, generator.settings.indentWidth = .ok width ∧
    generator.interface width model = .ok interface ∧
    generator.WritesLiterals width model interface ∧
    generator.units model = .ok [support, mapper] ∧
    ∀ field ∈ model.fields, ShowsLiterals generator.mapping support mapper field

end Generator

/-- With names for all fields, the class of the table and the mapper have the same literals exactly
if no name holds what a literal escapes. They keep them in the units exactly if, besides, the
indentation can be written and no name ends a line. -/
theorem Generator.literals_iff {settings : Settings} {generator : Generator}
    (made : Generator.make settings .shipped = .ok generator) {model : Model}
    (named : ∀ field ∈ model.fields, field.name ≠ "") :
    (∀ width, ∃ interface, generator.interface width model = .ok interface ∧
      (generator.WritesLiterals width model interface ↔
        ∀ field ∈ model.fields, IsPlain field.name)) ∧
    (generator.KeepsLiterals model ↔ settings.Indentable ∧
      ∀ field ∈ model.fields, IsPlain field.name ∧ IsUnbroken field.name) := by
  obtain ⟨rfl, shipped⟩ := Generator.make_eq_ok made
  have formed : ∀ width, generator.interface width model = .ok (generator.mapper width model) :=
    fun width => Interface.ofModel_eq _ _ width _ named
  have written := fun width => Generator.writesLiterals_iff generator width named
  refine ⟨fun width => ⟨_, formed width, written width⟩, ?_⟩
  rw [← Generator.units_ok_iff shipped (.of_named named)]
  constructor
  · rintro ⟨width, interface, support, mapper, _, given, writes, units, shows⟩
    obtain rfl := Except.ok.inj (given.symm.trans (formed width))
    have plain := (written width).mp writes
    exact ⟨⟨support, mapper, units⟩, fun field inside =>
      ⟨plain field inside, (shows field inside).unbroken⟩⟩
  · rintro ⟨⟨support, mapper, units⟩, names⟩
    obtain ⟨width, _, _, _, counted, _⟩ := Generator.rendered_of_units units
    refine ⟨width, _, support, mapper, counted, formed width,
      (written width).mpr fun field inside => (names field inside).1, units, ?_⟩
    intro field inside
    obtain ⟨plain, unbroken⟩ := names field inside
    exact (Generator.showsLiterals_iff shipped named units inside plain).mpr unbroken

theorem Generator.literals_order :
    Generator.make {} .shipped = .ok Generator.standard ∧
      (∀ field ∈ orderModel.fields, field.name ≠ "") ∧
      Generator.standard.KeepsLiterals orderModel := by
  have made : Generator.make {} .shipped = .ok Generator.standard := rfl
  have named : ∀ field ∈ orderModel.fields, field.name ≠ "" := by decide
  exact ⟨made, named, (Generator.literals_iff made named).2.mpr ⟨by decide, by decide⟩⟩

def quotedModel : Model where
  package := ""
  name := "A"
  fields := [⟨"a\"b", "long"⟩]
  table := none
  named := by decide
  distinct := by decide

theorem Generator.not_writesLiterals_quoted :
    Generator.make {} .shipped = .ok Generator.standard ∧
      (∀ field ∈ quotedModel.fields, field.name ≠ "") ∧
      (∃ units, Generator.standard.units quotedModel = .ok units) ∧
      ∀ width, ∃ interface, Generator.standard.interface width quotedModel = .ok interface ∧
        ¬Generator.standard.WritesLiterals width quotedModel interface := by
  have named : ∀ field ∈ quotedModel.fields, field.name ≠ "" := by decide
  refine ⟨rfl, named, (Generator.units_shipped rfl (.of_named named)).1 (by decide), ?_⟩
  intro width
  refine ⟨_, Interface.ofModel_eq _ _ width _ named, fun writes => ?_⟩
  exact absurd ((Generator.writesLiterals_iff Generator.standard width named).mp writes) (by decide)

end SqlScaffold
