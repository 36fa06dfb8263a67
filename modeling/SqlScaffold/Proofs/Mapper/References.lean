import SqlScaffold.Proofs.Mapper.Interface

/-!
What a mapper refers to in the class of its table. Its operations can be drafted before that class
has a name: the name comes into bodies only where they refer to a member of the class, and every
member is a column or the instance of the table.
-/

namespace SqlScaffold.Mapper

open Naming

inductive Line where
  | plain (text : String)
  | referring (before member after : String)
  deriving DecidableEq, Repr

namespace Line

def written (className : String) : Line → String
  | plain text => text
  | referring before member after => before ++ (className ++ "." ++ member) ++ after

@[simp] theorem written_plain (className text : String) : (plain text).written className = text :=
  rfl

def member? : Line → Option String
  | plain _ => none
  | referring _ member _ => some member

end Line

structure OperationDraft where
  operation : Operation
  lines : List Line
  deriving DecidableEq, Repr

namespace OperationDraft

def written (className : String) (draft : OperationDraft) : Operation :=
  { draft.operation with body := draft.lines.map (Line.written className) }

def members (draft : OperationDraft) : List String := draft.lines.filterMap Line.member?

end OperationDraft

def mapLine (indent : String) (field : Field) : Line :=
  .referring (indent ++ ".map(") field.name (").toProperty(\"" ++ field.name ++ "\")")

def setLine (indent : String) (field : Field) : Line :=
  .referring (indent ++ ".set(") field.name
    (").equalToWhenPresent(" ++ Subject.getterOf field.name ++ ")")

def whereLine (indent : String) (field : Field) : Line :=
  .referring (indent ++ ".where(") field.name
    (", SqlBuilder.isEqualTo(" ++ Subject.getterOf field.name ++ "))")

def instanceLine (model : Model) (before after : String) : Line :=
  .referring before (instanceName model.name) after

def keyLine (before : String) (field : Field) : Line :=
  .referring before field.name (", SqlBuilder.isEqualTo(" ++ Subject.keyParameter ++ ")));")

variable (settings : Settings) (mapping : TypeMapping) (width : Nat) (model : Model)

def nameless : Subject := .ofModel settings mapping width "" model

def insertDraft : OperationDraft :=
  let subject := nameless settings mapping width model
  ⟨subject.insert,
    instanceLine model
        ("return MyBatis3Utils.insert(this::insert, " ++ Subject.rowParameter ++ ", ") ", c -> c" ::
      model.fields.map (mapLine subject.indent) ++ [.plain ");"]⟩

def commonDrafts : List OperationDraft :=
  let subject := nameless settings mapping width model
  [insertDraft settings mapping width model,
    ⟨subject.selectOneStatement, []⟩,
    ⟨subject.selectManyStatement, []⟩,
    ⟨subject.selectOneCompleter,
      [instanceLine model "return MyBatis3Utils.selectOne(this::selectOne, selectList, "
        ", completer);"]⟩,
    ⟨subject.selectManyCompleter,
      [instanceLine model "return MyBatis3Utils.selectList(this::selectMany, selectList, "
        ", completer);"]⟩,
    ⟨subject.findAll, [.plain "return selectMany(SelectDSLCompleter.allRows());"]⟩]

def updateDraft (key : Field) : OperationDraft :=
  let subject := nameless settings mapping width model
  ⟨subject.updateOf (Column.ofField mapping key),
    .plain "return update(c -> c" ::
      (model.fields.filter fun field => !field.isIdentity).map (setLine subject.indent) ++
      [whereLine subject.indent key, .plain ");"]⟩

def keyDrafts (key : Field) : List OperationDraft :=
  let subject := nameless settings mapping width model
  let column := Column.ofField mapping key
  let keyType := keyTypeOf model subject column
  [⟨subject.findById keyType, [keyLine "return selectOne(c -> c.where(" key]⟩,
    updateDraft settings mapping width model key,
    ⟨subject.deleteByPrimaryKey column keyType, [keyLine "return delete(c -> c.where(" key]⟩,
    ⟨subject.updateWith,
      [instanceLine model "return MyBatis3Utils.update(this::update, " ", completer);"]⟩,
    ⟨subject.deleteWith,
      [instanceLine model "return MyBatis3Utils.deleteFrom(this::delete, " ", completer);"]⟩]

def drafts : List OperationDraft :=
  commonDrafts settings mapping width model ++
    match model.identity? with
    | none => []
    | some key => keyDrafts settings mapping width model key

variable (className : String)

theorem written_insertDraft :
    (insertDraft settings mapping width model).written className =
      (Subject.ofModel settings mapping width className model).insert := by
  simp [OperationDraft.written, insertDraft, Subject.insert, Subject.ofModel, nameless,
    Model.columns, Column.ofField, instanceLine, mapLine, Line.written, Subject.table,
    Subject.columnConstant, String.append_assoc]

theorem written_commonDrafts :
    (commonDrafts settings mapping width model).map (OperationDraft.written className) =
      (Subject.ofModel settings mapping width className model).commonOperations := by
  simp only [commonDrafts, Subject.commonOperations, List.map_cons, List.map_nil,
    written_insertDraft, List.cons.injEq, and_true, true_and]
  refine ⟨rfl, rfl, ?one, ?many, rfl⟩
  case one =>
    simp [OperationDraft.written, instanceLine, Line.written, Subject.selectOneCompleter,
      Subject.table, nameless, Subject.ofModel]
  case many =>
    simp [OperationDraft.written, instanceLine, Line.written, Subject.selectManyCompleter,
      Subject.table, nameless, Subject.ofModel]

theorem written_setLine (subject : Subject) (field : Field) :
    (setLine subject.indent field).written subject.support =
      subject.setLineOf (Column.ofField mapping field) := by
  simp [Subject.setLineOf, setLine, Line.written, Subject.columnConstant, String.append_assoc,
    Column.ofField]

theorem written_whereLine (subject : Subject) (field : Field) :
    (whereLine subject.indent field).written subject.support =
      subject.whereLineOf (Column.ofField mapping field) := by
  simp [Subject.whereLineOf, whereLine, Line.written, Subject.columnConstant, String.append_assoc,
    Column.ofField]

theorem written_updateDraft (key : Field) :
    (updateDraft settings mapping width model key).written className =
      (Subject.ofModel settings mapping width className model).updateOf
        (Column.ofField mapping key) := by
  let subject := Subject.ofModel settings mapping width className model
  have others : (model.columns mapping).filter (fun column => !column.primaryKey) =
      (model.fields.filter fun field => !field.isIdentity).map (Column.ofField mapping) := by
    rw [Model.columns, List.filter_map]
    rfl
  have sets : ((model.fields.filter fun field => !field.isIdentity).map
        (setLine (nameless settings mapping width model).indent)).map (Line.written className) =
      (subject.columns.filter fun column => !column.primaryKey).map subject.setLineOf := by
    change _ = ((model.columns mapping).filter _).map _
    rw [others, List.map_map, List.map_map]
    exact List.map_congr_left fun field _ => written_setLine mapping subject field
  have condition :
      (whereLine (nameless settings mapping width model).indent key).written className =
        subject.whereLineOf (Column.ofField mapping key) :=
    written_whereLine mapping subject key
  have body : (updateDraft settings mapping width model key).lines.map (Line.written className) =
      (subject.updateOf (Column.ofField mapping key)).body := by
    simp only [updateDraft, List.cons_append, List.map_cons, List.map_append, sets, condition,
      List.map_nil, Subject.updateOf, Line.written_plain]
  unfold OperationDraft.written
  rw [body]
  rfl

theorem written_keyDrafts {key : Field} (identity : key.isIdentity) :
    (keyDrafts settings mapping width model key).map (OperationDraft.written className) =
      (Subject.ofModel settings mapping width className model).keyOperationsOf
        (Column.ofField mapping key)
        (keyTypeOf model (.ofModel settings mapping width className model)
          (Column.ofField mapping key)) := by
  -- Finding refers to the key by the constant, the other operations by the name of the field.
  have named : key.name = identityName := by simpa [Field.isIdentity] using identity
  have keyType : keyTypeOf model (.ofModel settings mapping width className model)
      (Column.ofField mapping key) = keyTypeOf model (nameless settings mapping width model)
        (Column.ofField mapping key) := rfl
  simp only [keyDrafts, Subject.keyOperationsOf, List.map_cons, List.map_nil, keyType,
    written_updateDraft, List.cons.injEq, and_true, true_and]
  simp [OperationDraft.written, instanceLine, keyLine, Line.written, Subject.findById, named,
    Column.ofField, Subject.deleteByPrimaryKey, Subject.updateWith, Subject.deleteWith,
    Subject.table, Subject.columnConstant, nameless, Subject.ofModel, String.append_assoc]

/-- Written for a class of the table, the drafts are the operations of the mapper for that class. -/
theorem written_drafts :
    (drafts settings mapping width model).map (OperationDraft.written className) =
      (Interface.of settings mapping width className model).operations := by
  have key := Subject.key?_ofModel settings mapping width className model
  simp only [drafts, List.map_append, written_commonDrafts, Interface.of, keyedOperations, key]
  cases found : model.identity? with
  | none => rfl
  | some field =>
    have identity : field.isIdentity := List.find?_some found
    simp only [Option.map_some, written_keyDrafts settings mapping width model className identity]

def tableMembers : List String := instanceName model.name :: model.fields.map Field.name

theorem instanceName_mem_tableMembers : instanceName model.name ∈ tableMembers model :=
  List.mem_cons_self

theorem members_insertDraft :
    (insertDraft settings mapping width model).members = tableMembers model := by
  simp only [OperationDraft.members, insertDraft, instanceLine, List.cons_append,
    List.filterMap_cons, Line.member?, List.filterMap_append, List.filterMap_map,
    List.filterMap_nil, List.append_nil, tableMembers, List.cons.injEq, true_and]
  exact congrFun List.filterMap_eq_map model.fields

theorem members_updateDraft (key : Field) :
    (updateDraft settings mapping width model key).members =
      (model.fields.filter fun field => !field.isIdentity).map Field.name ++ [key.name] := by
  simp only [OperationDraft.members, updateDraft, List.cons_append, List.filterMap_cons,
    Line.member?, List.filterMap_append, List.filterMap_map, List.filterMap_nil, whereLine]
  exact congrArg (· ++ [key.name]) (congrFun List.filterMap_eq_map _)

theorem members_commonDrafts :
    ∀ draft ∈ commonDrafts settings mapping width model, draft.members ⊆ tableMembers model := by
  unfold commonDrafts
  simp only [List.forall_mem_cons, members_insertDraft]
  simp [OperationDraft.members, instanceLine, Line.member?, List.filterMap_cons,
    instanceName_mem_tableMembers]

theorem members_keyDrafts {key : Field} (inside : key ∈ model.fields) :
    ∀ draft ∈ keyDrafts settings mapping width model key,
      draft.members ⊆ tableMembers model := by
  have known : key.name ∈ tableMembers model :=
    List.mem_cons_of_mem _ (List.mem_map_of_mem inside)
  have others : (model.fields.filter fun field => !field.isIdentity).map Field.name ⊆
      tableMembers model :=
    fun _ member => List.mem_cons_of_mem _
      ((List.filter_sublist.map Field.name).subset member)
  unfold keyDrafts
  simp only [List.forall_mem_cons, members_updateDraft]
  simp [OperationDraft.members, instanceLine, keyLine, Line.member?, others, known,
    instanceName_mem_tableMembers]

/-- Bodies refer to nothing but the instance of the table and its columns. -/
theorem members_drafts :
    ∀ draft ∈ drafts settings mapping width model, draft.members ⊆ tableMembers model := by
  intro draft inside
  rcases List.mem_append.mp inside with common | keyed
  · exact members_commonDrafts settings mapping width model draft common
  · cases found : model.identity? with
    | none => simp [found] at keyed
    | some key =>
      rw [found] at keyed
      exact members_keyDrafts settings mapping width model (List.mem_of_find?_eq_some found) draft
        keyed

end SqlScaffold.Mapper
