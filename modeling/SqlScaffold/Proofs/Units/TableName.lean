import SqlScaffold.Proofs.Units.Reading

/-!
The name of the table in the class that describes it. The constructor hands it over as a literal,
which reads as the same text unless the source was cut in the middle of it: what brings a source
into its final form ends a line at every boundary, also inside a literal.
-/

namespace SqlScaffold

open Text Source Template

structure Model.HasOrderlyNames (model : Model) : Prop where
  package : ∀ segment ∈ splitAtChar '.' model.package, segment = "" ∨ isWord segment.toList
  name : isWord model.name.toList
  field : ∀ field ∈ model.fields, isWord field.name.toList
  type : ∀ field ∈ model.fields, IsUnbroken field.typeName

namespace Model.HasOrderlyNames

variable {model : Model} (orderly : model.HasOrderlyNames)

include orderly

theorem isOrderly {table : String} (given : model.table = some table)
    (unbroken : IsUnbroken table) : model.IsOrderly where
  package := orderly.package
  name := orderly.name
  field := orderly.field
  type := orderly.type
  table := by
    intro other also
    obtain rfl : table = other := Option.some.inj (given.symm.trans also)
    exact unbroken

theorem isFormable : model.IsFormable := by
  refine .of_named fun field inside empty => ?_
  have word := orderly.field field inside
  rw [empty] at word
  cases word

end Model.HasOrderlyNames

namespace Source

def IsTableCall (entity literal line : String) : Prop :=
  ∃ indent, allBlank indent = true ∧
    line = indent ++ "super(" ++ literal ++ ", " ++ entity ++ "::new);"

/-- Exactly one line of a source hands a literal to the constructor, and it reads as the name. -/
def CallsTable (entity table body : String) : Prop :=
  ∃ before line after literal, splitLines body = before ++ line :: after ∧
    IsTableCall entity literal line ∧ readLiteral? literal = some table ∧
    ∀ other ∈ before ++ after, ∀ further, ¬IsTableCall entity further other

def visibleStart (line : String) : Option Char := (line.toList.dropWhile isBlank).head?

theorem visibleStart_append {indent : String} (blank : allBlank indent = true) (rest : String) :
    visibleStart (indent ++ rest) = visibleStart rest := by
  have passed : ∀ c ∈ indent.toList, isBlank c = true := by simpa [allBlank] using blank
  rw [visibleStart, visibleStart, String.toList_append, List.dropWhile_append_of_pos passed]

theorem visibleStart_of_isTableCall {entity literal line : String}
    (call : IsTableCall entity literal line) : visibleStart line = some 's' := by
  obtain ⟨indent, blank, rfl⟩ := call
  have visible : isBlank 's' = false := by decide
  simp only [String.append_assoc]
  rw [visibleStart_append blank]
  simp [visibleStart, visible]

theorem not_isTableCall {line : String} (other : visibleStart line ≠ some 's') (entity literal : String) :
    ¬IsTableCall entity literal line := fun call => other (visibleStart_of_isTableCall call)

theorem IsTableCall.unbroken {entity literal line : String} (call : IsTableCall entity literal line)
    (unbroken : IsUnbroken line) : IsUnbroken literal := by
  obtain ⟨indent, _, rfl⟩ := call
  simp only [isUnbroken_append] at unbroken
  exact unbroken.1.1.1.2

theorem CallsTable.unbroken {entity table body : String} (calls : CallsTable entity table body) :
    IsUnbroken table := by
  obtain ⟨before, line, after, literal, lines, call, read, _⟩ := calls
  have listed : line ∈ splitLines body := by simp [lines]
  have whole := call.unbroken (unbroken_of_mem_splitLines line listed)
  exact isUnbroken_of_sourceLiteral (readLiteral?_eq_some_iff.mp read ▸ whole)

end Source

namespace TableSupport

variable (support : TableSupport) (width : Nat)

theorem visibleStart_constantLines :
    ∀ line ∈ support.constantLines (repeated width ' '), visibleStart line ≠ some 's' := by
  have visible : isBlank 'p' = false := by decide
  have blank := allBlank_repeated width
  simp only [constantLines, constantLine, List.forall_mem_cons, List.forall_mem_map,
    String.append_assoc, visibleStart_append blank]
  simp [visibleStart, visible]

theorem visibleStart_fieldLines :
    ∀ line ∈ support.fieldLines (repeated width ' '), visibleStart line ≠ some 's' := by
  have visible : isBlank 'p' = false := by decide
  have blank := allBlank_repeated width
  simp only [fieldLines, fieldLine, List.forall_mem_cons, List.forall_mem_map,
    String.append_assoc, visibleStart_append blank]
  simp [visibleStart, visible]

def tableCall (indent : String) : String :=
  indent ++ indent ++ indent ++ "super(" ++ sourceLiteral support.tableName ++ ", " ++
    support.entityName ++ "::new);"

theorem isTableCall_tableCall : IsTableCall support.entityName (sourceLiteral support.tableName)
    (support.tableCall (repeated width ' ')) := by
  refine ⟨_, ?_, rfl⟩
  simp [allBlank_append, allBlank_repeated width]

/-- No other line of the constructor could be taken for that one. -/
theorem constructorLines_eq : ∃ before after, support.constructorLines (repeated width ' ') =
      before ++ support.tableCall (repeated width ' ') :: after ∧
    ∀ line ∈ before ++ after, visibleStart line ≠ some 's' := by
  have visible : isBlank 'p' = false := by decide
  have closing : isBlank '\x7d' = false := by decide
  have blank := allBlank_repeated width
  let indent := repeated width ' '
  refine ⟨[indent ++ indent ++ "public " ++ support.entityName ++ "() \x7b"],
    [indent ++ indent ++ "\x7d", indent ++ "\x7d"], rfl, ?_⟩
  simp only [List.cons_append, List.nil_append, List.forall_mem_cons, String.append_assoc,
    visibleStart_append blank, indent]
  simp [visibleStart, visible, closing]

end TableSupport

theorem visibleStart_openingParagraphs (settings : Settings) (model : Model)
    (imports : List String) : ∀ paragraph ∈ openingParagraphs settings model imports,
      ∀ line ∈ paragraph, visibleStart line ≠ some 's' := by
  have slash : isBlank '/' = false := by decide
  have package : isBlank 'p' = false := by decide
  have imported : isBlank 'i' = false := by decide
  unfold openingParagraphs headLines
  split <;> split <;>
    simp [packageLine, importLine, visibleStart, slash, package, imported]

namespace Generator

variable {generator : Generator} {model : Model} {table : String}

/-- Nothing before the constructor could be taken for the line that names the table. -/
theorem visibleStart_beforeConstructor (width : Nat) :
    ∀ paragraph ∈ openingParagraphs generator.settings model (generator.support model).imports ++
        [(generator.support model).constantLines (repeated width ' '),
          (generator.support model).fieldLines (repeated width ' ')],
      ∀ line ∈ paragraph, visibleStart line ≠ some 's' :=
  List.forall_mem_append.mpr ⟨visibleStart_openingParagraphs _ _ _, List.forall_mem_cons.mpr
    ⟨(generator.support model).visibleStart_constantLines width,
      List.forall_mem_singleton.mpr ((generator.support model).visibleStart_fieldLines width)⟩⟩

theorem callsTable_support (unbroken : model.HasUnbrokenTexts)
    (suffixes : generator.settings.HasUnbrokenSuffixes) (width : Nat) :
    CallsTable model.name model.tableName
      (textOf (layOut (generator.supportParagraphs width model) ++ ["\x7d"])) := by
  let support := generator.support model
  let opening := openingParagraphs generator.settings model support.imports
  let first := opening ++
    [support.constantLines (repeated width ' '), support.fieldLines (repeated width ' ')]
  have laid := isParagraph_of_mem_support unbroken suffixes width
  have paragraphs : generator.supportParagraphs width model =
      first ++ [support.constructorLines (repeated width ' ')] := by
    simp [supportParagraphs, TableSupport.paragraphs, first, opening, support]
  obtain ⟨before, after, constructor, others⟩ := support.constructorLines_eq width
  have lines : splitLines (textOf (layOut (generator.supportParagraphs width model) ++ ["\x7d"])) =
      (first.flatMap (· ++ [""]) ++ before) ++
        support.tableCall (repeated width ' ') :: (after ++ ["\x7d"]) := by
    rw [splitLines_textOf (unbroken_layOut laid (by decide)), paragraphs, layOut_append, constructor]
    simp
  refine ⟨_, _, _, _, lines, support.isTableCall_tableCall width,
    readLiteral?_eq_some_iff.mpr rfl, ?_⟩
  intro other inside further
  refine not_isTableCall ?_ _ _
  simp only [List.mem_append, List.mem_singleton] at inside others
  rcases inside with (early | here) | late | rfl
  · obtain ⟨paragraph, listed, member⟩ := List.mem_flatMap.mp early
    rcases List.mem_append.mp member with here | gap
    · exact visibleStart_beforeConstructor width paragraph listed other here
    · rw [List.mem_singleton.mp gap]
      decide
  · exact others other (.inl here)
  · exact others other (.inr late)
  · decide

def WritesTable (generator : Generator) (model : Model) (table : String) : Prop :=
  ∃ support mapper, generator.units model = .ok [support, mapper] ∧
    CallsTable model.name table support.body

end Generator

/-- With words as names, any table that is given reaches the constructor as it is, exactly if the
indentation can be written and nothing in the name ends a line. -/
theorem Generator.writesTable_iff {settings : Settings} {generator : Generator}
    (made : Generator.make settings .shipped = .ok generator)
    (suffixes : settings.HasUnbrokenSuffixes) {model : Model} (orderly : model.HasOrderlyNames)
    {table : String} (given : model.table = some table) (filled : table ≠ "") :
    generator.WritesTable model table ↔ settings.Indentable ∧ IsUnbroken table := by
  obtain ⟨rfl, shipped⟩ := Generator.make_eq_ok made
  rw [← Generator.units_ok_iff shipped orderly.isFormable]
  constructor
  · rintro ⟨support, mapper, units, calls⟩
    exact ⟨⟨support, mapper, units⟩, calls.unbroken⟩
  · rintro ⟨⟨support, mapper, units⟩, whole⟩
    have unbroken := (orderly.isOrderly given whole).unbroken
    obtain ⟨width, _, first, second, _, _, rendered, _, paired⟩ := Generator.rendered_of_units units
    obtain ⟨rfl, rfl⟩ : support = first ∧ mapper = second := by simpa using paired
    refine ⟨support, mapper, units, ?_⟩
    have named : model.tableName = table := by simp [Model.tableName, given, filled]
    have laid := Generator.isParagraph_of_mem_support unbroken suffixes width
    rw [Generator.support_body unbroken shipped rendered, normalize_layOut laid (by decide), ← named]
    exact Generator.callsTable_support unbroken suffixes width

theorem Model.IsOrderly.hasOrderlyNames {model : Model} (orderly : model.IsOrderly) :
    model.HasOrderlyNames :=
  ⟨orderly.package, orderly.name, orderly.field, orderly.type⟩

/-- The quote in the name of the table is escaped and read again. -/
theorem Generator.writesTable_labelledItem :
    Generator.make {} .shipped = .ok Generator.standard ∧
      ({} : Settings).HasUnbrokenSuffixes ∧ labelledItem.HasOrderlyNames ∧
      labelledItem.table = some "stock\"items" ∧ "stock\"items" ≠ "" ∧
      Generator.standard.WritesTable labelledItem "stock\"items" := by
  have suffixes : ({} : Settings).HasUnbrokenSuffixes := ⟨by decide, by decide, by decide⟩
  have names := labelledItem_orderly.hasOrderlyNames
  have filled : "stock\"items" ≠ "" := by decide
  exact ⟨rfl, suffixes, names, rfl, filled,
    (Generator.writesTable_iff rfl suffixes names rfl filled).mpr ⟨by decide, by decide⟩⟩

def tabbedItem : Model := { labelledItem with table := some "stock\x0bitems" }

theorem Generator.not_writesTable_tabbedItem :
    Generator.make {} .shipped = .ok Generator.standard ∧
      ({} : Settings).HasUnbrokenSuffixes ∧ tabbedItem.HasOrderlyNames ∧
      (∃ units, Generator.standard.units tabbedItem = .ok units) ∧
      ¬Generator.standard.WritesTable tabbedItem "stock\x0bitems" := by
  have names := labelledItem_orderly.hasOrderlyNames
  have orderly : tabbedItem.HasOrderlyNames := ⟨names.package, names.name, names.field, names.type⟩
  refine ⟨rfl, ⟨by decide, by decide, by decide⟩, orderly, ?written, ?torn⟩
  case written => exact (Generator.units_shipped rfl orderly.isFormable).1 (by decide)
  case torn =>
    rintro ⟨support, mapper, _, calls⟩
    exact absurd calls.unbroken (by decide)

end SqlScaffold
