import SqlScaffold.Proofs.Template.Indentation
import SqlScaffold.Proofs.Units.Opening

/-!
Methods of an interface, written in lines. A method fills a paragraph: its annotations come first,
and the lines of a body stand twice as far in as the method.
-/

namespace SqlScaffold

open Text Source Template

theorem Source.blankCount_eq_ok {number : Int} {count : Nat}
    (counted : blankCount number = .ok count) : count = number.toNat := by
  unfold blankCount at counted
  split at counted
  · cases counted
  · split at counted
    · cases counted
    · exact (Except.ok.inj counted).symm

theorem Source.blankCount_twice {number : Int} {once twice : Nat}
    (counted : blankCount number = .ok once) (doubled : blankCount (number * 2) = .ok twice) :
    twice = once + once := by
  rw [blankCount_eq_ok counted, blankCount_eq_ok doubled]
  omega

namespace Template

variable {size : Int} {width : Nat} (counted : blankCount size = .ok width)

include counted

theorem writeIndented_counted (lines : List String) :
    writeIndented (.ok (.int size)) (.list (lines.map .text)) =
      .ok (joinWith "\n" (indentLines width lines)) := by
  rw [writeIndented_lines]
  simp [countOf_int counted, bind, Except.bind, Except.map]

theorem writeIndented_kept {lines : List String} (kept : ∀ line ∈ lines, IsKept line) :
    writeIndented (.ok (.int size)) (.list (lines.map .text)) =
      .ok (joinWith "\n" (lines.map (repeated width ' ' ++ ·))) := by
  rw [writeIndented_counted counted, indentLines_of_kept width kept]

end Template

namespace Mapper.Operation

variable (operation : Operation) (indent : String)

def markLines : List String := operation.annotations.flatMap (splitAtChar '\n')

def bodyLines : List String :=
  (indent ++ "default " ++ operation.signature ++ " \x7b") ::
    operation.body.map (indent ++ indent ++ ·) ++ [indent ++ "\x7d"]

def lines : List String :=
  operation.markLines.map (indent ++ ·) ++
    ((if operation.legacy then [indent ++ "@Deprecated"] else []) ++
      if operation.isDefault then operation.bodyLines indent
      else [indent ++ operation.signature ++ ";"])

structure HasKeptLines : Prop where
  signature : IsUnbroken operation.signature
  body : ∀ line ∈ operation.body, IsKept line
  marks : ∀ line ∈ operation.markLines, IsKept line

variable {operation indent}

theorem HasKeptLines.isParagraph (kept : operation.HasKeptLines) (blank : IsUnbroken indent) :
    IsParagraph (operation.lines indent) := by
  have deprecated : IsKept (indent ++ "@Deprecated") := .append blank (by decide)
  have closed : IsKept (indent ++ "\x7d") := .append blank (by decide)
  have opened : IsKept (indent ++ "default " ++ operation.signature ++ " \x7b") :=
    .append (isUnbroken_append.mpr
      ⟨isUnbroken_append.mpr ⟨blank, by decide⟩, kept.signature⟩) (by decide)
  have abstract : IsKept (indent ++ operation.signature ++ ";") :=
    .append (isUnbroken_append.mpr ⟨blank, kept.signature⟩) (by decide)
  have marks : ∀ line ∈ operation.markLines.map (indent ++ ·), IsKept line :=
    List.forall_mem_map.mpr fun line inside => .append blank (kept.marks line inside)
  have body : ∀ line ∈ operation.body.map (indent ++ indent ++ ·), IsKept line :=
    List.forall_mem_map.mpr fun line inside =>
      .append (isUnbroken_append.mpr ⟨blank, blank⟩) (kept.body line inside)
  unfold lines bodyLines
  constructor
  · refine List.append_ne_nil_of_right_ne_nil _ (List.append_ne_nil_of_right_ne_nil _ ?_)
    split <;> simp
  · refine List.forall_mem_append.mpr ⟨marks, List.forall_mem_append.mpr ⟨?_, ?_⟩⟩
    · split <;> simp [deprecated]
    · split
      · simpa [or_imp, forall_and, opened, closed] using body
      · simpa using abstract

section Rendered

variable {context : Entries} {size : Int} {width : Nat}

variable (kept : operation.HasKeptLines)

include kept

theorem renderAll_marks (counted : blankCount size = .ok width)
    (sized : context.get? "indent_size" = some (.int size)) :
    renderAll (("operation", .object (Interface.operationEntries operation)) :: context)
      [.each "annotation" (.member "operation" "annotations")
        [.write (.variable "annotation") (.indented (.once (.variable "indent_size"))),
          .text "\n"]] =
      .ok (textOf (operation.markLines.map (repeated width ' ' ++ ·))) := by
  have marks : operation.markLines.map (repeated width ' ' ++ ·) =
      operation.annotations.flatMap fun mark =>
        (splitAtChar '\n' mark).map (repeated width ' ' ++ ·) := by
    rw [markLines, List.map_flatMap]
  rw [marks]
  refine renderAll_each .text rfl fun mark inside => ?_
  have written : writeIndented (.ok (.int size)) (.text mark) = .ok _ :=
    writeIndented_kept counted fun line member =>
      kept.marks line (List.mem_flatMap.mpr ⟨mark, inside, member⟩)
  have nonempty : (splitAtChar '\n' mark).map (repeated width ' ' ++ ·) ≠ [] := by
    simpa using splitAtChar_ne_nil '\n' mark
  simp only [Entries.get?] at sized
  simp [renderAll, Part.render, Form.write, Width.value, Reference.value, Entries.get?,
    List.lookup_cons, sized, written, textOf_eq_joinWith nonempty, bind, Except.bind]

theorem renderAll_body (twice : blankCount (size * 2) = .ok (width + width))
    (blank : context.get? "ind" = some (.text (repeated width ' ')))
    (sized : context.get? "indent_size" = some (.int size)) (isDefault : operation.isDefault) :
    renderAll (("operation", .object (Interface.operationEntries operation)) :: context)
      [value "ind", .text "default ", Template.member "operation" "signature", .text " \x7b\n",
        .write (.member "operation" "body") (.indented (.twice (.variable "indent_size"))),
        .text "\n", value "ind", .text "\x7d\n"] =
      .ok (textOf (operation.bodyLines (repeated width ' '))) := by
  have written := writeIndented_kept twice kept.body
  rw [repeated_add] at written
  have nonempty : operation.body.map (repeated width ' ' ++ repeated width ' ' ++ ·) ≠ [] := by
    simpa [Operation.isDefault] using isDefault
  simp only [Entries.get?] at blank sized
  simp [renderAll, Part.render, Form.write, Width.value, Reference.value, Entries.get?, doubled,
    List.lookup_cons, blank, sized, Interface.operationEntries, value, Template.member, Value.shown,
    written, bodyLines, textOf, textOf_eq_joinWith nonempty, bind, Except.bind, Except.map,
    ← String.toList_inj]

theorem HasKeptLines.renderAll_operation (counted : blankCount size = .ok width)
    (twice : blankCount (size * 2) = .ok (width + width))
    (blank : context.get? "ind" = some (.text (repeated width ' ')))
    (sized : context.get? "indent_size" = some (.int size)) :
    renderAll (("operation", .object (Interface.operationEntries operation)) :: context)
      Template.operation = .ok (textOf ("" :: operation.lines (repeated width ' '))) := by
  have empty : renderAll (("operation", .object (Interface.operationEntries operation)) :: context)
      [.text "\n"] = .ok (textOf [""]) := rfl
  have marks := renderAll_marks kept counted sized
  have legacy : renderAll (("operation", .object (Interface.operationEntries operation)) :: context)
      [.choose (.member "operation" "legacy") [value "ind", .text "@Deprecated\n"] []] =
      .ok (textOf (if operation.legacy then [repeated width ' ' ++ "@Deprecated"] else [])) := by
    simp only [Entries.get?] at blank
    cases deprecated : operation.legacy <;>
      simp [renderAll, Part.render, Form.write, Reference.value, Entries.get?, List.lookup_cons,
        blank, Interface.operationEntries, deprecated, Value.isTruthy, value, Value.shown, textOf,
        bind, Except.bind, Except.map, String.append_assoc]
  have method : renderAll (("operation", .object (Interface.operationEntries operation)) :: context)
      [.choose (.member "operation" "is_default")
        [value "ind", .text "default ", Template.member "operation" "signature", .text " \x7b\n",
          .write (.member "operation" "body") (.indented (.twice (.variable "indent_size"))),
          .text "\n", value "ind", .text "\x7d\n"]
        [value "ind", Template.member "operation" "signature", .text ";\n"]] =
      .ok (textOf (if operation.isDefault then operation.bodyLines (repeated width ' ')
        else [repeated width ' ' ++ operation.signature ++ ";"])) := by
    refine renderAll_choose rfl ?_
    cases default : operation.isDefault with
    | true => exact renderAll_body kept twice blank sized default
    | false =>
      simp only [Entries.get?] at blank
      simp [renderAll, Part.render, Form.write, Reference.value, Entries.get?, List.lookup_cons,
        blank, Interface.operationEntries, Value.isTruthy, value, Template.member,
        Value.shown, textOf, bind, Except.bind, Except.map, String.append_assoc]
  have whole := renderAll_append empty
    (renderAll_append marks (renderAll_append legacy method))
  refine whole.trans (congrArg Except.ok ?_)
  simp [lines, textOf, String.append_assoc]

end Rendered

end Mapper.Operation

end SqlScaffold
