import SqlScaffold.Proofs.Units.Operation

/-!
The methods of a mapper, of which every line is kept in the final form. Only the annotation that
maps columns to properties has more than one line.
-/

namespace SqlScaffold

open Text Source Template

namespace Text

def commaEnded : List String → List String
  | [] => []
  | [line] => [line]
  | line :: rest => (line ++ ",") :: commaEnded rest

theorem commaEnded_eq_nil_iff {lines : List String} : commaEnded lines = [] ↔ lines = [] := by
  cases lines with
  | nil => simp [commaEnded]
  | cons line rest => cases rest <;> simp [commaEnded]

theorem mem_commaEnded {line : String} {lines : List String} (inside : line ∈ lines) :
    ∃ comma, line ++ comma ∈ commaEnded lines ∧ (comma = "" ∨ comma = ",") := by
  induction lines with
  | nil => cases inside
  | cons first rest ih =>
    cases rest with
    | nil => exact ⟨"", by simpa [commaEnded] using inside, .inl rfl⟩
    | cons next rest =>
      rcases List.mem_cons.mp inside with rfl | later
      · exact ⟨",", List.mem_cons_self, .inr rfl⟩
      · obtain ⟨comma, listed, known⟩ := ih later
        exact ⟨comma, List.mem_cons_of_mem _ listed, known⟩

theorem joinWith_commaEnded (lines : List String) :
    joinWith "\n" (commaEnded lines) = joinWith ",\n" lines := by
  induction lines with
  | nil => rfl
  | cons line rest ih =>
    cases rest with
    | nil => rfl
    | cons next rest =>
      have nonempty := List.cons_ne_nil next rest
      have ended := commaEnded_eq_nil_iff.not.mpr nonempty
      have comma : "," ++ "\n" = ",\n" := rfl
      simp only [commaEnded]
      rw [joinWith_cons_of_ne_nil _ _ ended, ih, joinWith_cons_of_ne_nil _ _ nonempty, ← comma]
      simp only [String.append_assoc]

theorem commaEnded_inj {first second : List String} (same : commaEnded first = commaEnded second) :
    first = second := by
  induction first generalizing second with
  | nil => exact (commaEnded_eq_nil_iff.mp same.symm).symm
  | cons line rest ih =>
    cases second with
    | nil => exact commaEnded_eq_nil_iff.mp same
    | cons other others =>
      cases rest with
      | nil =>
        cases others with
        | nil => exact same
        | cons next others =>
          exact absurd (commaEnded_eq_nil_iff.mp (List.cons.inj same).2.symm)
            (List.cons_ne_nil next others)
      | cons next rest =>
        cases others with
        | nil =>
          exact absurd (commaEnded_eq_nil_iff.mp (List.cons.inj same).2)
            (List.cons_ne_nil next rest)
        | cons further others =>
          obtain ⟨head, tail⟩ := List.cons.inj same
          rw [String.append_left_inj _ |>.mp head, ih tail]

end Text

namespace Source

theorem isKept_of_mem_commaEnded {lines : List String} (kept : ∀ line ∈ lines, IsKept line) :
    ∀ line ∈ commaEnded lines, IsKept line := by
  induction lines with
  | nil => simp [commaEnded]
  | cons line rest ih =>
    obtain ⟨here, later⟩ := List.forall_mem_cons.mp kept
    cases rest with
    | nil => exact kept
    | cons next rest =>
      exact List.forall_mem_cons.mpr ⟨.append here.unbroken (by decide), ih later⟩

end Source

namespace Mapper

namespace Subject

variable {subject : Subject}

structure HasUnbrokenTexts (subject : Subject) : Prop where
  entity : IsUnbroken subject.entity
  support : IsUnbroken subject.support
  resultMap : IsUnbroken subject.resultMap
  indent : IsUnbroken subject.indent
  fieldName : ∀ column ∈ subject.columns, IsUnbroken column.fieldName
  columnName : ∀ column ∈ subject.columns, IsUnbroken column.columnName

def resultsHead (subject : Subject) : String :=
  "@Results(id = \"" ++ subject.resultMap ++ "\", value = \x7b"

def resultsLines (subject : Subject) : List String :=
  if subject.columns.isEmpty then [subject.resultsHead ++ "\x7d)"]
  else subject.resultsHead :: (commaEnded (subject.columns.map subject.resultEntry) ++ ["\x7d)"])

theorem joinWith_resultsLines (subject : Subject) :
    joinWith "\n" subject.resultsLines = subject.resultsMark := by
  have mark : subject.resultsMark = if subject.columns.isEmpty then subject.resultsHead ++ "\x7d)"
      else subject.resultsHead ++ "\n" ++ joinWith ",\n" (subject.columns.map subject.resultEntry) ++
        ("\n" ++ "\x7d)") := rfl
  rw [mark, resultsLines]
  by_cases empty : subject.columns.isEmpty
  · rw [if_pos empty, if_pos empty]
    rfl
  · have nonempty : subject.columns.map subject.resultEntry ≠ [] := by simpa using empty
    have ended := commaEnded_eq_nil_iff.not.mpr nonempty
    rw [if_neg empty, if_neg empty, joinWith_cons_of_ne_nil _ _ (by simp),
      joinWith_append_singleton _ ended, joinWith_commaEnded]
    simp only [String.append_assoc]

theorem kept_selectMark : IsKept selectMark := by decide +kernel

theorem splitAtChar_selectMark : splitAtChar '\n' selectMark = [selectMark] :=
  splitAtChar_of_not_mem kept_selectMark.unbroken.newline_not_mem

namespace HasUnbrokenTexts

variable (unbroken : subject.HasUnbrokenTexts)

include unbroken

theorem table : IsUnbroken subject.table :=
  isUnbroken_append.mpr ⟨isUnbroken_append.mpr ⟨unbroken.support, by decide⟩, Naming.isUnbroken_instanceName unbroken.entity⟩

theorem columnConstant {field : String} (plain : IsUnbroken field) :
    IsUnbroken (subject.columnConstant field) :=
  isUnbroken_append.mpr ⟨isUnbroken_append.mpr ⟨unbroken.support, by decide⟩, plain⟩

theorem signature_common : ∀ operation ∈ subject.commonOperations,
    IsUnbroken operation.signature := by
  have entity := unbroken.entity
  simp only [commonOperations, List.forall_mem_cons, List.not_mem_nil, false_imp_iff, implies_true,
    Operation.signature, insert, selectOneStatement, selectManyStatement, selectOneCompleter,
    selectManyCompleter, findAll, statementParameters, rowParameter, List.map_cons, List.map_nil,
    joinWith, isUnbroken_append, and_true]
  and_intros <;> first | with_reducible assumption | exact isUnbroken_literal (by decide)

theorem kept_insert : ∀ line ∈ subject.insert.body, IsKept line := by
  have table := unbroken.table
  have mapped : ∀ column ∈ subject.columns,
      IsKept (subject.indent ++ ".map(" ++ subject.columnConstant column.fieldName ++
        ").toProperty(\"" ++ column.fieldName ++ "\")") := by
    intro column inside
    have field := unbroken.fieldName column inside
    have constant := unbroken.columnConstant field
    have indent := unbroken.indent
    refine .append ?_ (by decide)
    simp only [isUnbroken_append]
    and_intros <;> first | with_reducible assumption | exact isUnbroken_literal (by decide)
  have called : IsKept ("return MyBatis3Utils.insert(this::insert, " ++ rowParameter ++ ", " ++
      subject.table ++ ", c -> c") := by
    refine .append ?_ (by decide)
    simp only [isUnbroken_append]
    and_intros <;> first | with_reducible assumption | exact isUnbroken_literal (by decide)
  simp only [insert, List.cons_append, List.forall_mem_cons, List.forall_mem_append,
    List.forall_mem_map, List.not_mem_nil, false_imp_iff, implies_true, and_true]
  exact ⟨called, mapped, by decide⟩

theorem kept_resultEntry {column : Column} (inside : column ∈ subject.columns) :
    IsKept (subject.resultEntry column) := by
  have field := unbroken.fieldName column inside
  have name := unbroken.columnName column inside
  have indent := unbroken.indent
  have storage := column.storage.isUnbroken_name
  have closed : IsKept (if column.primaryKey then ", id = true)" else ")") := by
    split <;> decide
  refine .append ?_ closed
  simp only [isUnbroken_append]
  and_intros <;> first | with_reducible assumption | exact isUnbroken_literal (by decide)

theorem kept_resultsLines : ∀ line ∈ subject.resultsLines, IsKept line := by
  have opened : IsKept subject.resultsHead :=
    .append (isUnbroken_append.mpr ⟨by decide, unbroken.resultMap⟩) (by decide)
  have entries : ∀ line ∈ commaEnded (subject.columns.map subject.resultEntry), IsKept line :=
    isKept_of_mem_commaEnded
      (List.forall_mem_map.mpr fun _ inside => unbroken.kept_resultEntry inside)
  unfold resultsLines
  split
  · exact List.forall_mem_singleton.mpr (.append opened.unbroken (by decide))
  · refine List.forall_mem_cons.mpr ⟨opened, ?_⟩
    exact List.forall_mem_append.mpr ⟨entries, by decide⟩

theorem signature_keyed {keyType : String} (plain : IsUnbroken keyType) (key : Column) :
    ∀ operation ∈ subject.keyOperationsOf key keyType, IsUnbroken operation.signature := by
  have entity := unbroken.entity
  simp only [keyOperationsOf, List.forall_mem_cons, List.not_mem_nil, false_imp_iff, implies_true,
    Operation.signature, findById, updateOf, deleteByPrimaryKey, updateWith, deleteWith,
    rowParameter, keyParameter, List.map_cons, List.map_nil, joinWith, isUnbroken_append, and_true]
  and_intros <;> first | with_reducible assumption | exact isUnbroken_literal (by decide)

theorem splitAtChar_resultsMark : splitAtChar '\n' subject.resultsMark = subject.resultsLines := by
  rw [← joinWith_resultsLines]
  refine splitAtChar_joinWith ?_ fun line inside =>
    (unbroken.kept_resultsLines line inside).unbroken.newline_not_mem
  unfold resultsLines
  split <;> simp

theorem markLines_selectOneStatement :
    subject.selectOneStatement.markLines = selectMark :: subject.resultsLines := by
  simp [Operation.markLines, selectOneStatement, splitAtChar_selectMark,
    unbroken.splitAtChar_resultsMark]

theorem marks_common : ∀ operation ∈ subject.commonOperations,
    ∀ line ∈ operation.markLines, IsKept line := by
  have referred : IsKept ("@ResultMap(\"" ++ subject.resultMap ++ "\")") :=
    .append (isUnbroken_append.mpr ⟨by decide, unbroken.resultMap⟩) (by decide)
  have single := splitAtChar_of_not_mem referred.unbroken.newline_not_mem
  simp only [commonOperations, List.forall_mem_cons, unbroken.markLines_selectOneStatement]
  simp only [Operation.markLines, insert, selectManyStatement, selectOneCompleter,
    selectManyCompleter, findAll, List.flatMap_cons, List.flatMap_nil, splitAtChar_selectMark,
    single, List.append_nil, List.forall_mem_append, List.forall_mem_cons, List.not_mem_nil,
    false_imp_iff, implies_true, and_true, true_and]
  exact ⟨⟨kept_selectMark, unbroken.kept_resultsLines⟩, kept_selectMark, referred⟩

theorem body_common : ∀ operation ∈ subject.commonOperations,
    ∀ line ∈ operation.body, IsKept line := by
  have table := unbroken.table
  have insert := unbroken.kept_insert
  simp only [commonOperations, List.forall_mem_cons, selectOneStatement, 
    selectManyStatement, selectOneCompleter, selectManyCompleter, findAll, 
    List.not_mem_nil, false_imp_iff, implies_true, and_true, true_and]
  refine ⟨insert, ?_, ?_, by decide⟩
  all_goals
    refine .append ?_ (by decide)
    simp only [isUnbroken_append]
    and_intros <;> first | with_reducible assumption | exact isUnbroken_literal (by decide)

theorem getterOf {column : Column} (inside : column ∈ subject.columns) :
    IsUnbroken (Subject.getterOf column.fieldName) :=
  isUnbroken_append.mpr
    ⟨by decide, Naming.isUnbroken_accessorName (unbroken.fieldName column inside)⟩

theorem kept_setLine {column : Column} (inside : column ∈ subject.columns) :
    IsKept (subject.setLineOf column) := by
  have indent := unbroken.indent
  have constant := unbroken.columnConstant (unbroken.fieldName column inside)
  have getter := unbroken.getterOf inside
  refine .append ?_ (by decide)
  simp only [isUnbroken_append]
  and_intros <;> first | with_reducible assumption | exact isUnbroken_literal (by decide)

theorem kept_whereLine {column : Column} (inside : column ∈ subject.columns) :
    IsKept (subject.whereLineOf column) := by
  have indent := unbroken.indent
  have constant := unbroken.columnConstant (unbroken.fieldName column inside)
  have getter := unbroken.getterOf inside
  refine .append ?_ (by decide)
  simp only [isUnbroken_append]
  and_intros <;> first | with_reducible assumption | exact isUnbroken_literal (by decide)

theorem body_keyed {key : Column} (inside : key ∈ subject.columns) (keyType : String) :
    ∀ operation ∈ subject.keyOperationsOf key keyType, ∀ line ∈ operation.body, IsKept line := by
  have table := unbroken.table
  have indent := unbroken.indent
  have constant := unbroken.columnConstant (unbroken.fieldName key inside)
  have identity : IsUnbroken (subject.columnConstant identityName) :=
    unbroken.columnConstant (by decide)
  have sets : ∀ column ∈ subject.columns.filter fun column => !column.primaryKey,
      IsKept (subject.setLineOf column) := fun column member =>
    unbroken.kept_setLine (List.mem_filter.mp member).1
  simp only [keyOperationsOf, List.forall_mem_cons, findById, updateOf, deleteByPrimaryKey,
    updateWith, deleteWith, List.cons_append, List.forall_mem_append, List.forall_mem_map,
    List.not_mem_nil, false_imp_iff, implies_true, and_true]
  refine ⟨?find, ⟨by decide, sets, unbroken.kept_whereLine inside, by decide⟩, ?delete, ?update,
    ?deleteAll⟩
  all_goals
    refine .append ?_ (by decide)
    simp only [isUnbroken_append]
    and_intros <;> first | with_reducible assumption | exact isUnbroken_literal (by decide)

theorem hasKeptLines_common : ∀ operation ∈ subject.commonOperations, operation.HasKeptLines :=
  fun operation inside =>
    ⟨unbroken.signature_common operation inside, unbroken.body_common operation inside,
      unbroken.marks_common operation inside⟩

theorem hasKeptLines_keyed {key : Column} (inside : key ∈ subject.columns) {keyType : String}
    (plain : IsUnbroken keyType) :
    ∀ operation ∈ subject.keyOperationsOf key keyType, operation.HasKeptLines := by
  have marks : ∀ operation ∈ subject.keyOperationsOf key keyType,
      ∀ line ∈ operation.markLines, IsKept line := by
    simp [keyOperationsOf, Operation.markLines, findById, updateOf, deleteByPrimaryKey, updateWith,
      deleteWith]
  exact fun operation member =>
    ⟨unbroken.signature_keyed plain key operation member,
      unbroken.body_keyed inside keyType operation member, marks operation member⟩

end HasUnbrokenTexts

end Subject

end Mapper

end SqlScaffold
