import SqlScaffold.Proofs.Generator
import SqlScaffold.Proofs.Imports
import SqlScaffold.Proofs.Text.Blank
import SqlScaffold.Proofs.Text.Unbroken

/-!
Models whose texts have no more than one line each. Whatever the units of such a model refer to has
no more than one line either. In an orderly model, names are words besides.
-/

namespace SqlScaffold

open Text Source

structure Settings.HasUnbrokenSuffixes (settings : Settings) : Prop where
  support : IsUnbroken settings.supportSuffix
  mapper : IsUnbroken settings.mapperSuffix
  resultMap : IsUnbroken settings.resultMapSuffix

structure Model.HasUnbrokenTexts (model : Model) : Prop where
  package : IsUnbroken model.package
  name : IsUnbroken model.name
  field : ∀ field ∈ model.fields, IsUnbroken field.name
  type : ∀ field ∈ model.fields, IsUnbroken field.typeName
  table : ∀ table, model.table = some table → IsUnbroken table

/-- The entity, its fields and the segments of its package have words as names, unless a segment is
empty, and neither a type nor the table ends a line. -/
structure Model.IsOrderly (model : Model) : Prop where
  package : ∀ segment ∈ splitAtChar '.' model.package, segment = "" ∨ isWord segment.toList
  name : isWord model.name.toList
  field : ∀ field ∈ model.fields, isWord field.name.toList
  type : ∀ field ∈ model.fields, IsUnbroken field.typeName
  table : ∀ table, model.table = some table → IsUnbroken table

namespace Source

theorem isLineBoundary_of_isWordPart {c : Char} (part : isWordPart c = true) :
    isLineBoundary c = false := by
  have apart (range : Nat × Nat) (inside : range.1 ≤ c.toNat ∧ c.toNat ≤ range.2)
      (far : ∀ first ∈ [range], ∀ other ∈ lineBoundaries, first.2 < other.1 ∨ other.2 < first.1) :
      isLineBoundary c = false :=
    Ranges.contains_eq_false_of_apart far
      ((Ranges.contains_iff _ _).mpr ⟨range, List.mem_cons_self, inside⟩)
  unfold isWordPart Char.isAlphanum Char.isAlpha Char.isUpper Char.isLower Char.isDigit at part
  simp only [Bool.or_eq_true, Bool.and_eq_true, decide_eq_true_eq, beq_iff_eq, ge_iff_le,
    UInt32.le_iff_toNat_le] at part
  rcases part with (((upper | lower) | digit) | rfl) | rfl
  · exact apart (0x41, 0x5A) upper (by decide)
  · exact apart (0x61, 0x7A) lower (by decide)
  · exact apart (0x30, 0x39) digit (by decide)
  · decide
  · decide

theorem isWordPart_of_isWord {chars : List Char} (word : isWord chars) :
    ∀ c ∈ chars, isWordPart c = true := by
  cases chars with
  | nil => simp
  | cons first rest =>
    simp only [isWord, Bool.and_eq_true, List.all_eq_true] at word
    refine List.forall_mem_cons.mpr ⟨?_, word.2⟩
    simp only [isWordStart, isWordPart, Char.isAlphanum, Bool.or_eq_true] at word ⊢
    tauto

theorem isUnbroken_of_isWord {name : String} (word : isWord name.toList) : IsUnbroken name :=
  fun c inside => isLineBoundary_of_isWordPart (isWordPart_of_isWord word c inside)

theorem isUnbroken_simpleName {typeName : String} (unbroken : IsUnbroken typeName) :
    IsUnbroken (simpleName typeName) := by
  unfold simpleName splitType splitLast
  split
  · cases split : splitLastChars '.' typeName.toList with
    | none => exact unbroken
    | some parts =>
      exact isUnbroken_ofList.mpr fun c inside => unbroken c (mem_of_splitLastChars split c inside)
  · exact unbroken

theorem isUnbroken_spelling (owner : Option String) {typeName : String}
    (unbroken : IsUnbroken typeName) : IsUnbroken (spelling owner typeName) := by
  unfold spelling
  split
  · exact isUnbroken_simpleName unbroken
  · exact unbroken

theorem isUnbroken_of_importOf {typeName imported : String} (unbroken : IsUnbroken typeName)
    (needed : importOf typeName = some imported) : IsUnbroken imported := by
  have known : ∀ entry ∈ wellKnownTypes, IsUnbroken entry.2 := by decide +kernel
  unfold importOf at needed
  split at needed
  · split at needed
    · cases needed
    · cases needed
      exact unbroken
  · obtain ⟨before, after, split, _⟩ := List.lookup_eq_some_iff.mp needed
    exact known (typeName, imported) (by simp [split])

theorem isUnbroken_of_resolve {typeNames reserved : List String} {package : String}
    (unbroken : ∀ typeName ∈ typeNames, IsUnbroken typeName) :
    ∀ imported ∈ (resolve typeNames package reserved).imports, IsUnbroken imported := by
  intro imported member
  obtain ⟨typeName, inside, _, needed⟩ := mem_imports_resolve.mp member
  exact isUnbroken_of_importOf (unbroken typeName inside) (mem_importInto_iff.mp needed).1

end Source

theorem isUnbroken_boxedType {typeName : String} (unbroken : IsUnbroken typeName) :
    IsUnbroken (boxedType typeName) := by
  have boxes : ∀ entry ∈ primitiveBoxes, IsUnbroken entry.2 := by decide +kernel
  unfold boxedType
  cases boxed : primitiveBoxes.lookup typeName with
  | none => exact unbroken
  | some box =>
    obtain ⟨before, after, split, _⟩ := List.lookup_eq_some_iff.mp boxed
    exact boxes (typeName, box) (by simp [split])

theorem StorageType.isUnbroken_name (storage : StorageType) : IsUnbroken storage.name := by
  cases storage <;> decide

theorem StorageType.name_inj {first second : StorageType} (same : first.name = second.name) :
    first = second := by
  have found := StorageType.ofName?_name first
  rw [same, StorageType.ofName?_name second] at found
  exact (Option.some.inj found).symm

namespace Model

namespace HasUnbrokenTexts

variable {model : Model} (unbroken : model.HasUnbrokenTexts)

include unbroken

theorem tableName : IsUnbroken model.tableName := by
  have default := Naming.isUnbroken_defaultTableName unbroken.name
  unfold Model.tableName
  cases chosen : model.table with
  | none => exact default
  | some table =>
    dsimp only
    split
    · exact default
    · exact unbroken.table table chosen

theorem header : IsUnbroken (Generator.header model) := by
  have qualified : IsUnbroken model.qualifiedName := by
    unfold Model.qualifiedName qualify
    split
    · exact unbroken.name
    · exact isUnbroken_append.mpr
        ⟨isUnbroken_append.mpr ⟨unbroken.package, by decide⟩, unbroken.name⟩
  exact isUnbroken_append.mpr ⟨isUnbroken_append.mpr ⟨by decide, qualified⟩, by decide⟩

section Column

variable {mapping : TypeMapping} {column : Column} (member : column ∈ model.columns mapping)

include member

theorem fieldName : IsUnbroken column.fieldName := by
  obtain ⟨field, inside, rfl⟩ := List.mem_map.mp member
  exact unbroken.field field inside

theorem columnName : IsUnbroken column.columnName := by
  obtain ⟨field, inside, rfl⟩ := List.mem_map.mp member
  exact Naming.isUnbroken_columnName (unbroken.field field inside)

theorem valueType : IsUnbroken column.valueType := by
  obtain ⟨field, inside, rfl⟩ := List.mem_map.mp member
  exact isUnbroken_boxedType (unbroken.type field inside)

end Column

theorem valueTypes (mapping : TypeMapping) :
    ∀ typeName ∈ (model.columns mapping).map Column.valueType, IsUnbroken typeName := by
  intro typeName inside
  obtain ⟨column, member, rfl⟩ := List.mem_map.mp inside
  exact unbroken.valueType member

end HasUnbrokenTexts

namespace IsOrderly

variable {model : Model} (orderly : model.IsOrderly)

include orderly

theorem unbroken : model.HasUnbrokenTexts where
  package := by
    rw [← joinWith_splitAtChar '.' model.package]
    refine IsUnbroken.joinWith (by decide) fun segment inside => ?_
    rcases orderly.package segment inside with rfl | word
    · decide
    · exact isUnbroken_of_isWord word
  name := isUnbroken_of_isWord orderly.name
  field := fun field inside => isUnbroken_of_isWord (orderly.field field inside)
  type := orderly.type
  table := orderly.table

theorem named : ∀ field ∈ model.fields, field.name ≠ "" := by
  intro field inside empty
  have word := orderly.field field inside
  rw [empty] at word
  cases word

theorem pointless (mapping : TypeMapping) :
    ∀ column ∈ model.columns mapping, '.' ∉ column.fieldName.toList := by
  intro column member
  obtain ⟨field, inside, rfl⟩ := List.mem_map.mp member
  exact not_mem_of_isWord (orderly.field field inside) (by decide) (by decide)

end IsOrderly

end Model

end SqlScaffold
