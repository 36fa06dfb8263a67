import SqlScaffold.Proofs.Template.Scope
import SqlScaffold.Template.Library

/-!
The scopes of the two templates of a model. The class template writes nothing but the indentation
that it is given; the interface template indents the bodies of methods twice as far.
-/

namespace SqlScaffold.Template

open Source

def columnShape : Shape :=
  .record [("name", .any), ("column_name", .any), ("jdbc_type", .any), ("value_type", .any)]

def tableSupportScope : Scope :=
  [("name", .any), ("package", .any), ("entity_name", .any), ("table_name", .any),
    ("instance_name", .any), ("imports", .list .any), ("columns", .list columnShape),
    ("header", .any), ("ind", .any)]

def operationShape : Shape :=
  .record [("signature", .any), ("is_default", .any), ("legacy", .any), ("body", .list .text),
    ("annotations", .list .text)]

def mapperScope : Scope :=
  [("name", .any), ("package", .any), ("imports", .list .any), ("super_interfaces", .list .any),
    ("select_list", .list .any), ("operations", .list operationShape), ("header", .any),
    ("ind", .any), ("indent_size", .count)]

theorem tableSupport_checks : checksAll tableSupportScope tableSupport := by
  decide

theorem mapper_checks : checksAll mapperScope mapper := by
  decide

theorem find_tableSupport : Library.shipped.find tableSupportName = .ok tableSupport := by
  rfl

theorem find_mapper : Library.shipped.find mapperName = .ok mapper := by
  rfl

theorem methods_mem_mapper : .each "operation" (.variable "operations") operation ∈ mapper := by
  simp [mapper]

theorem body_mem_operation :
    ∃ body otherwise, .choose (.member "operation" "is_default") body otherwise ∈ operation ∧
      .write (.member "operation" "body") (.indented (.twice (.variable "indent_size"))) ∈ body :=
  ⟨_, _, .tail _ (.tail _ (.tail _ (.head _))), .tail _ (.tail _ (.tail _ (.tail _ (.head _))))⟩

theorem value_member_of_bound {context entries : Entries} {name field : String} {value : Value}
    (given : entries.get? field = some value) :
    Reference.value ((name, .object entries) :: context) (.member name field) = .ok value := by
  simp only [Entries.get?] at given
  simp [Reference.value, Entries.get?, given]

theorem value_of_unbound {context : Entries} {name other : String} {bound value : Value}
    (different : other ≠ name) (given : context.get? other = some value) :
    Reference.value ((name, bound) :: context) (.variable other) = .ok value := by
  have skipped : (other == name) = false := by simpa using different
  simp only [Entries.get?] at given
  simp [Reference.value, Entries.get?, List.lookup_cons, skipped, given]

section Written

variable {context entries : Entries} {text : String}

theorem renderAll_operation_of_mapper {operations : List Value}
    (written : renderAll context mapper = .ok text)
    (given : context.get? "operations" = some (.list operations))
    (inside : .object entries ∈ operations) :
    ∃ own, renderAll (("operation", .object entries) :: context) operation = .ok own ∧
      own.toList <:+: text.toList := by
  obtain ⟨methods, each, within⟩ := render_of_renderAll written methods_mem_mapper
  have listed : Reference.value context (.variable "operations") = .ok (.list operations) := by
    simp [Reference.value, given]
  obtain ⟨own, one, here⟩ := renderAll_of_each each listed inside
  exact ⟨own, one, here.trans within⟩

variable (written : renderAll (("operation", .object entries) :: context) operation = .ok text)

include written

theorem render_body_of_operation (default : entries.get? "is_default" = some (.bool true)) :
    ∃ own, (Part.write (.member "operation" "body")
        (.indented (.twice (.variable "indent_size")))).render
          (("operation", .object entries) :: context) = .ok own ∧ own.toList <:+: text.toList := by
  obtain ⟨body, otherwise, choice, line⟩ := body_mem_operation
  obtain ⟨chosen, choose, within⟩ := render_of_renderAll written choice
  have taken := renderAll_of_choose choose (value_member_of_bound default) rfl
  obtain ⟨own, indented, here⟩ := render_of_renderAll taken line
  exact ⟨own, indented, here.trans within⟩

theorem renderAll_mark_of_operation {marks : List Value} {mark : Value}
    (given : entries.get? "annotations" = some (.list marks)) (inside : mark ∈ marks) :
    ∃ own, renderAll (("annotation", mark) :: ("operation", .object entries) :: context)
        [.write (.variable "annotation") (.indented (.once (.variable "indent_size"))),
          .text "\n"] = .ok own ∧ own.toList <:+: text.toList := by
  obtain ⟨all, each, within⟩ := render_of_renderAll written (.tail _ (.head _))
  obtain ⟨own, one, here⟩ := renderAll_of_each each (value_member_of_bound given) inside
  exact ⟨own, one, here.trans within⟩

end Written

/-- If the interface template is written and some method has a body, the doubled indentation
counts. -/
theorem blankCount_of_mapper {context entries : Entries} {operations : List Value} {size : Int}
    {text : String} (written : renderAll context mapper = .ok text)
    (given : context.get? "operations" = some (.list operations))
    (sized : context.get? "indent_size" = some (.int size))
    (inside : .object entries ∈ operations)
    (default : entries.get? "is_default" = some (.bool true)) :
    ∃ count, blankCount (size * 2) = .ok count := by
  obtain ⟨method, one, _⟩ := renderAll_operation_of_mapper written given inside
  obtain ⟨lines, indented, _⟩ := render_body_of_operation one default
  have known : Reference.value (("operation", .object entries) :: context)
      (.variable "indent_size") = .ok (.int size) := value_of_unbound (by decide) sized
  exact blankCount_of_twice indented known

end SqlScaffold.Template
