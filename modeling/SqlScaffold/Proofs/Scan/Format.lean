import SqlScaffold.Proofs.Number.Letters
import SqlScaffold.Proofs.Outcome
import SqlScaffold.Proofs.Text.Blank
import SqlScaffold.Scan.Input

/-!
The form of declarations. An object is scanned exactly if it has this form, and then its model is
known part by part. Each step of a scan is stated as a condition on the object, and the scan of a
whole declaration puts them together.
-/

namespace SqlScaffold

theorem firstRepeated?_eq_none_iff (names : List String) : ∀ seen,
    firstRepeated? seen names = none ↔ names.Nodup ∧ ∀ name ∈ names, name ∉ seen := by
  induction names with
  | nil => simp [firstRepeated?]
  | cons name rest ih =>
    intro seen
    by_cases met : name ∈ seen
    · simp [firstRepeated?, met]
    · simp only [firstRepeated?, List.contains_eq_mem, met, decide_false, Bool.false_eq_true,
        if_false, ih, List.mem_cons, not_or, List.nodup_cons, forall_eq_or_imp]
      grind

theorem Model.make_eq_ok_iff {package name : String} {fields : List Field} {table : Option String}
    {model : Model} :
    make package name fields table = .ok model ↔ name ≠ "" ∧ (fields.map Field.name).Nodup ∧
      model.package = package ∧ model.name = name ∧ model.fields = fields ∧
        model.table = table := by
  have unrepeated := firstRepeated?_eq_none_iff (fields.map Field.name) []
  simp only [List.not_mem_nil, not_false_eq_true, implies_true, and_true] at unrepeated
  unfold make
  split
  · next unnamed => simp [unnamed]
  · next named =>
    split
    · next field repeated =>
      have distinct : ¬(fields.map Field.name).Nodup := by simp [← unrepeated, repeated]
      simp [distinct]
    · next found =>
      obtain ⟨ownPackage, ownName, ownFields, ownTable, _, _⟩ := model
      simp only [Except.ok.injEq, Model.mk.injEq, ne_eq, named, not_false_eq_true, true_and,
        unrepeated.mp found]
      grind

namespace Scan

open Text

def textUnder? (entries : Entries) (key : String) : Option String :=
  match entries.get? key with
  | some (.text content) => some content
  | _ => none

def MayBeText (entries : Entries) (key : String) : Prop :=
  ∀ value, entries.get? key = some value → value.isTruthy → ∃ content, value = .text content

def membersOf? (entries : Entries) : Option (List Value) :=
  match entries.get? "fields" with
  | none => some []
  | some (.list members) => some members
  | some _ => none

def fieldOf? : Value → Option Field
  | .object entries => do
    let name ← textUnder? entries "name"
    let typeName ← textUnder? entries "type"
    some ⟨name, typeName⟩
  | _ => none

def isStaticMember : Value → Bool
  | .object entries => ((Entries.get? entries "static").map Value.isTruthy).getD false
  | _ => false

def persistedFields (members : List Value) : List Field :=
  (members.filter fun member => !isStaticMember member).filterMap fieldOf?

def IsMember (member : Value) : Prop :=
  ∃ field, fieldOf? member = some field ∧ field.name ≠ "" ∧ field.typeName ≠ ""

structure IsDeclaration (entries : Entries) : Prop where
  kind : ∀ value, entries.get? "kind" = some value → value = .text "class"
  name : ∃ name, textUnder? entries "name" = some name ∧ ∃ c ∈ name.toList, isBlank c = false
  table : MayBeText entries "table"
  package : MayBeText entries "package"
  members : ∃ members, membersOf? entries = some members ∧ (∀ member ∈ members, IsMember member) ∧
    ((persistedFields members).map Field.name).Nodup

structure Declares (entries : Entries) (defaultPackage : Option String) (model : Model) : Prop where
  name : (textUnder? entries "name").map trim = some model.name
  package : model.package = firstGiven [textUnder? entries "package", defaultPackage] ""
  table : model.table = some ((textUnder? entries "table").getD "")
  fields : (membersOf? entries).map persistedFields = some model.fields

/-! ### Members -/

theorem textAt?_eq_some_iff {entries : Entries} {key content : String} :
    textAt? entries key = some content ↔ textUnder? entries key = some content ∧ content ≠ "" := by
  unfold textAt? textUnder?
  split
  · next found => split <;> grind
  · simp

theorem truthyAt?_isSome (entries : Entries) (key : String) :
    (truthyAt? entries key).isSome = ((entries.get? key).map Value.isTruthy).getD false := by
  unfold truthyAt?
  cases entries.get? key with
  | none => rfl
  | some value => cases truthy : value.isTruthy <;> simp [Option.filter, truthy]

theorem isMember_object_iff {entries : Entries} :
    IsMember (.object entries) ↔ ∃ name typeName,
      textAt? entries "name" = some name ∧ textAt? entries "type" = some typeName ∧
        fieldOf? (.object entries) = some ⟨name, typeName⟩ := by
  simp only [IsMember, fieldOf?, textAt?_eq_some_iff]
  constructor
  · rintro ⟨field, found, named, typed⟩
    obtain ⟨name, nameFound, afterName⟩ := Option.bind_eq_some_iff.mp found
    obtain ⟨typeName, typeFound, made⟩ := Option.bind_eq_some_iff.mp afterName
    cases made
    exact ⟨name, typeName, ⟨nameFound, named⟩, ⟨typeFound, typed⟩, found⟩
  · rintro ⟨name, typeName, ⟨_, named⟩, ⟨_, typed⟩, found⟩
    exact ⟨_, found, named, typed⟩

/-- The step of a scan of members: the first one has its name and type, and its field comes before
those of the others unless it is static. -/
theorem scanMembers_cons_eq_ok_iff {model : String} {member : Value} {rest : List Value}
    {index : Nat} {fields : List Field} :
    (scanMembers model index (member :: rest)).value = .ok fields ↔
      IsMember member ∧ ∃ later, (scanMembers model (index + 1) rest).value = .ok later ∧
        fields = persistedFields [member] ++ later := by
  cases member with
  | object entries =>
    rw [isMember_object_iff, scanMembers]
    dsimp only
    split
    · next unnamed => simp [unnamed, reject, Logged.silent]
    · next name named =>
      split
      · next untyped => simp [untyped, reject, Logged.silent]
      · next typeName typed =>
        have found : fieldOf? (.object entries) = some ⟨name, typeName⟩ := by
          have nameFound := (textAt?_eq_some_iff.mp named).1
          have typeFound := (textAt?_eq_some_iff.mp typed).1
          simp [fieldOf?, nameFound, typeFound]
        -- A static member is checked like any other before it is left out.
        cases static : (truthyAt? entries "static").isSome with
        | true =>
          rw [truthyAt?_isSome] at static
          simp [named, typed, found, persistedFields, isStaticMember, static]
        | false =>
          simp only [Bool.false_eq_true, if_false, Logged.map, Outcome.map_eq_ok_iff]
          rw [truthyAt?_isSome] at static
          simp [named, typed, found, persistedFields, isStaticMember, static, eq_comm]
  | _ => simp [scanMembers, reject, Logged.silent, IsMember, fieldOf?]

/-- Members are scanned exactly if each of them has its name and type. -/
theorem scanMembers_eq_ok_iff {model : String} {members : List Value} {index : Nat}
    {fields : List Field} :
    (scanMembers model index members).value = .ok fields ↔
      (∀ member ∈ members, IsMember member) ∧ fields = persistedFields members := by
  induction members generalizing index fields with
  | nil => simp [scanMembers, Logged.silent, persistedFields, eq_comm]
  | cons member rest ih =>
    have divided : persistedFields (member :: rest) =
        persistedFields [member] ++ persistedFields rest := by
      simp [persistedFields, ← List.filterMap_append, ← List.filter_append]
    simp [scanMembers_cons_eq_ok_iff, ih, divided, and_assoc]

/-! ### Kind and options -/

theorem getD_kind_iff (entries : Entries) :
    ((entries.get? "kind").getD (.text "class")).shown = "class" ↔
      ∀ value, entries.get? "kind" = some value → value = .text "class" := by
  cases entries.get? "kind" with
  | none => simp [Value.shown]
  | some value => simp [Value.shown_eq_class_iff]

theorem optionText?_truthyAt?_iff {entries : Entries} {key content : String} :
    optionText? (truthyAt? entries key) = some content ↔
      MayBeText entries key ∧ (textUnder? entries key).getD "" = content := by
  unfold truthyAt? MayBeText textUnder?
  cases entries.get? key with
  | none => simp [optionText?]
  | some value =>
    by_cases truthy : value.isTruthy
    · cases value <;> simp [Option.filter, truthy, optionText?]
    · cases value with
      | text content =>
        have empty : content = "" := by simpa [Value.isTruthy] using truthy
        simp [Option.filter, Value.isTruthy, empty, optionText?]
      | _ => simp [Option.filter, truthy, optionText?]

theorem firstGiven_nil (last : String) : firstGiven [] last = last := rfl

theorem firstGiven_cons (first : Option String) (rest : List (Option String)) (last : String) :
    firstGiven (first :: rest) last =
      if first.getD "" = "" then firstGiven rest last else first.getD "" := by
  cases first with
  | none => rfl
  | some content => by_cases empty : content = "" <;> simp [firstGiven, empty]

theorem optionText?_getD (entries : Entries) (key inherited : String) :
    optionText? ((truthyAt? entries key).getD (.text inherited)) =
      (optionText? (truthyAt? entries key)).map fun own => if own = "" then inherited else own := by
  cases found : truthyAt? entries key with
  | none => simp [optionText?]
  | some value =>
    have truthy : value.isTruthy := (Option.filter_eq_some_iff.mp found).2
    cases value with
    | text content =>
      have given : content ≠ "" := by simpa [Value.isTruthy] using truthy
      simp [optionText?, given]
    | _ => simp [optionText?]

theorem optionText?_getD_eq_some_iff {entries : Entries} {key content : String}
    {inherited : Option String} :
    optionText? ((truthyAt? entries key).getD (.text (inherited.getD ""))) = some content ↔
      MayBeText entries key ∧ firstGiven [textUnder? entries key, inherited] "" = content := by
  have fallback : firstGiven [inherited] "" = inherited.getD "" := by
    rw [firstGiven_cons, firstGiven_nil]
    split <;> simp_all
  rw [optionText?_getD, Option.map_eq_some_iff, firstGiven_cons, fallback]
  simp [optionText?_truthyAt?_iff, and_assoc]

/-! ### The whole declaration -/

theorem value_andThenOk_eq_ok_iff {ε α β : Type} {first : Logged (Except ε α)}
    {next : α → Logged (Except ε β)} {result : β} :
    (first.andThenOk next).value = .ok result ↔
      ∃ value, first.value = .ok value ∧ (next value).value = .ok result := by
  unfold Logged.andThenOk
  cases first.value with
  | error error => simp
  | ok value => simp

theorem value_finish_eq_ok_iff {package name : String} {fields : List Field}
    {table : Option String} {model : Model} :
    (finish package name fields table).value = .ok model ↔
      Model.make package name fields table = .ok model := by
  unfold finish
  split
  · next error failed => simp [failed, reject, Logged.silent]
  · next made found => simp [found]

theorem membersOf?_eq_some_iff {entries : Entries} {members : List Value} :
    (entries.get? "fields").getD (.list []) = .list members ↔
      membersOf? entries = some members := by
  unfold membersOf?
  cases entries.get? "fields" with
  | none => simp
  | some value => cases value <;> simp

/-- The steps of a scan in order, each of which has to succeed. -/
theorem value_scanDeclaration_eq_ok_iff {entries : Entries} {defaultPackage : Option String}
    {model : Model} :
    (scanDeclaration entries defaultPackage).value = .ok model ↔
      ((entries.get? "kind").getD (.text "class")).shown = "class" ∧
        ∃ name, textAt? entries "name" = some name ∧ allBlank name = false ∧
        ∃ table, optionText? (truthyAt? entries "table") = some table ∧
        ∃ package, optionText?
          ((truthyAt? entries "package").getD (.text (defaultPackage.getD ""))) = some package ∧
        ∃ members, (entries.get? "fields").getD (.list []) = .list members ∧
        ∃ fields, (scanMembers name 0 members).value = .ok fields ∧
          Model.make package (trim name) fields (some table) = .ok model := by
  unfold scanDeclaration
  dsimp only
  split
  · next other => simp [reject, Logged.silent, other]
  · next same =>
    have kind := Decidable.not_not.mp same
    split
    · next unnamed => simp [reject, Logged.silent, unnamed]
    · next name named =>
      split
      · next blank => simp [reject, Logged.silent, named, blank]
      · next visible =>
        split
        · next unread => simp [reject, Logged.silent, unread]
        · next table tableRead =>
          split
          · next unread => simp [reject, Logged.silent, unread]
          · next package packageRead =>
            split
            · next members listed =>
              simp [value_andThenOk_eq_ok_iff, value_finish_eq_ok_iff, listed, packageRead,
                tableRead, visible, named, kind]
            · next unlisted =>
              have unlisted : ∀ members, (entries.get? "fields").getD (.list []) ≠ .list members :=
                fun members listed => unlisted members listed
              simp [reject, Logged.silent, unlisted]

theorem value_scanDeclaration_iff {entries : Entries} {defaultPackage : Option String}
    {model : Model} :
    (scanDeclaration entries defaultPackage).value = .ok model ↔
      IsDeclaration entries ∧ Declares entries defaultPackage model := by
  simp only [value_scanDeclaration_eq_ok_iff, getD_kind_iff, textAt?_eq_some_iff,
    optionText?_truthyAt?_iff, optionText?_getD_eq_some_iff, membersOf?_eq_some_iff,
    scanMembers_eq_ok_iff, Model.make_eq_ok_iff]
  constructor
  · rintro ⟨kind, name, ⟨named, _⟩, visible, table, ⟨tableRead, rfl⟩, package, ⟨packageRead, rfl⟩,
      members, listed, fields, ⟨formed, rfl⟩, _, distinct, ofPackage, ofName, ofFields, ofTable⟩
    have letter : ∃ c ∈ name.toList, isBlank c = false := by simpa [allBlank] using visible
    refine ⟨⟨kind, ⟨name, named, letter⟩, tableRead, packageRead, members, listed, formed, distinct⟩,
      ?name, ofPackage, ofTable, ?fields⟩
    case name => simp [named, ofName]
    case fields => simp [listed, ofFields]
  · rintro ⟨⟨kind, ⟨name, named, letter⟩, tableRead, packageRead, members, listed, formed, distinct⟩,
      ofName, ofPackage, ofTable, ofFields⟩
    have visible : allBlank name = false := by simpa [allBlank] using letter
    have given : trim name ≠ "" := by simpa [trim_eq_empty_iff] using letter
    have nonempty : name ≠ "" := by
      rintro rfl
      simp at letter
    simp only [named, listed, Option.map_some, Option.some.injEq] at ofName ofFields
    exact ⟨kind, name, ⟨named, nonempty⟩, visible, _, ⟨tableRead, rfl⟩, _, ⟨packageRead, rfl⟩,
      members, listed, _, ⟨formed, rfl⟩, given, distinct, ofPackage, ofName.symm, ofFields.symm,
      ofTable⟩

end Scan

end SqlScaffold
