import SqlScaffold.Proofs.Orderly
import SqlScaffold.Proofs.Source.Paragraphs

/-!
Templates that are written in lines, and the lines with which every unit opens: the comment, the
package and the imports. How many paragraphs they fill depends on whether there is a package.
-/

namespace SqlScaffold

open Text Source Template

namespace Template

variable {context : Entries}

theorem renderAll_append {first second : List Part} {before behind : String}
    (here : renderAll context first = .ok before) (later : renderAll context second = .ok behind) :
    renderAll context (first ++ second) = .ok (before ++ behind) := by
  induction first generalizing before with
  | nil =>
    cases here
    simpa using later
  | cons part rest ih =>
    obtain ⟨written, rendered, afterPart⟩ := Outcome.bind_eq_ok_iff.mp here
    obtain ⟨further, going, joined⟩ := Outcome.bind_eq_ok_iff.mp afterPart
    cases joined
    rw [List.cons_append, renderAll, rendered, ih going]
    simp [bind, Except.bind, String.append_assoc]

theorem exists_of_renderAll_append {first second : List Part} {text : String}
    (written : renderAll context (first ++ second) = .ok text) :
    ∃ before behind, renderAll context first = .ok before ∧ renderAll context second = .ok behind ∧
      text = before ++ behind := by
  induction first generalizing text with
  | nil => exact ⟨"", text, rfl, written, by simp⟩
  | cons part rest ih =>
    obtain ⟨own, rendered, afterPart⟩ := Outcome.bind_eq_ok_iff.mp written
    obtain ⟨further, going, joined⟩ := Outcome.bind_eq_ok_iff.mp afterPart
    cases joined
    obtain ⟨before, behind, here, later, rfl⟩ := ih going
    refine ⟨own ++ before, behind, ?_, later, by simp [String.append_assoc]⟩
    simp [renderAll, rendered, here, bind, Except.bind]

theorem renderAll_choose {condition : Reference} {body otherwise : List Part} {value : Value}
    {text : String} (given : condition.value context = .ok value)
    (written : renderAll context (if value.isTruthy then body else otherwise) = .ok text) :
    renderAll context [.choose condition body otherwise] = .ok text := by
  have chosen : (Part.choose condition body otherwise).render context = .ok text := by
    rw [Part.render, given, ← written]
    split <;> simp [bind, Except.bind, *]
  simp [renderAll, chosen, bind, Except.bind]

theorem renderAll_each {α : Type} {name : String} {source : Reference} {body : List Part}
    {items : List α} (value : α → Value) {lines : α → List String}
    (given : source.value context = .ok (.list (items.map value)))
    (written : ∀ item ∈ items,
      renderAll ((name, value item) :: context) body = .ok (textOf (lines item))) :
    renderAll context [.each name source body] = .ok (textOf (items.flatMap lines)) := by
  have each : (items.map value).mapM (fun member => renderAll ((name, member) :: context) body) =
      .ok (items.map fun item => textOf (lines item)) := by
    rw [List.mapM_map]
    exact Outcome.mapM_eq_ok_map written
  have joined := joinWith_textOf (items.map lines)
  rw [List.map_map] at joined
  simp [renderAll, Part.render, given, membersOf, Value.members?, each, bind, Except.bind,
    List.flatMap_def, ← joined, Function.comp_def]

end Template

def Column.stored (column : Column) : String × String × StorageType :=
  (column.fieldName, column.columnName, column.storage)

theorem Column.map_eq_map_of_both {α β γ : Type} {first second : List Column}
    {left left' : Column → α} {right right' : Column → β} {both both' : Column → γ}
    (lefts : first.map left = second.map left') (rights : first.map right = second.map right')
    (follows : ∀ column ∈ first, ∀ other ∈ second,
      left column = left' other → right column = right' other → both column = both' other) :
    first.map both = second.map both' := by
  induction first generalizing second with
  | nil =>
    have empty : second = [] := by simpa [eq_comm] using lefts
    rw [empty]
    rfl
  | cons column rest ih =>
    cases second with
    | nil => simp at lefts
    | cons other others =>
      simp only [List.map_cons, List.cons.injEq] at lefts rights ⊢
      obtain ⟨here, later⟩ := List.forall_mem_cons.mp follows
      refine ⟨here other List.mem_cons_self lefts.1 rights.1, ih lefts.2 rights.2 ?_⟩
      exact fun column inside other member => later column inside other (List.mem_cons_of_mem _ member)

def headLines (settings : Settings) (model : Model) : List String :=
  if settings.addComments then ["// " ++ Generator.header model] else []

def packageLine (package : String) : String := "package " ++ package ++ ";"

def importLine (imported : String) : String := "import " ++ imported ++ ";"

def openingParagraphs (settings : Settings) (model : Model) (imports : List String) :
    List (List String) :=
  if model.package = "" then [headLines settings model ++ imports.map importLine]
  else [headLines settings model ++ [packageLine model.package], imports.map importLine]

def headText (settings : Settings) (model : Model) : String :=
  if settings.addComments then lineComment "//" (Generator.header model) ++ "\n" else ""

def declarationLines (model : Model) (imports : List String) : List String :=
  (if model.package = "" then [] else [packageLine model.package, ""]) ++ imports.map importLine

theorem renderAll_opening_text {settings : Settings} {model : Model} {context : Entries}
    {imports : List String}
    (header : context.get? "header" =
      some (if settings.addComments then .text (Generator.header model) else .null))
    (package : context.get? "package" = some (.text model.package))
    (imported : context.get? "imports" = some (.list (imports.map .text))) :
    renderAll context opening =
      .ok (headText settings model ++ textOf (declarationLines model imports ++ [""])) := by
  have head : renderAll context
      [.choose (.variable "header") [.write (.variable "header") .comment, .text "\n"] []] =
        .ok (headText settings model) := by
    have filled := Generator.header_ne_empty model
    unfold headText
    cases added : settings.addComments with
    | false => simp [renderAll, Part.render, Reference.value, header, added, Value.isTruthy,
        bind, Except.bind]
    | true => simp [renderAll, Part.render, Reference.value, header, added, Value.isTruthy, filled,
        Form.write, Value.shown, bind, Except.bind, Except.map]
  have named : renderAll context
      [.choose (.variable "package") [.text "package ", value "package", .text ";\n\n"] []] =
        .ok (textOf (if model.package = "" then [] else [packageLine model.package, ""])) := by
    by_cases default : model.package = ""
    · simp [renderAll, Part.render, Reference.value, package, Value.isTruthy, default, textOf,
        bind, Except.bind]
    · simp [renderAll, Part.render, Reference.value, package, Value.isTruthy, default, value,
        Form.write, Value.shown, packageLine, textOf, bind, Except.bind, Except.map,
        ← String.toList_inj]
  have listed : renderAll context
      [.each "import_name" (.variable "imports")
        [.text "import ", value "import_name", .text ";\n"]] =
      .ok (textOf (imports.flatMap fun name => [importLine name])) := by
    refine renderAll_each .text (by simp [Reference.value, imported]) fun name _ => ?_
    simp [renderAll, Part.render, Reference.value, Entries.get?, value, Form.write, Value.shown,
      importLine, textOf, bind, Except.bind, Except.map, String.append_assoc]
  have last : renderAll context [.text "\n"] = .ok (textOf [""]) := rfl
  have whole := renderAll_append head (renderAll_append named (renderAll_append listed last))
  refine whole.trans (congrArg Except.ok ?_)
  simp [declarationLines, ← List.map_eq_flatMap, textOf_append]

section Opening

variable {settings : Settings} {model : Model} (unbroken : model.HasUnbrokenTexts)

theorem lineComment_of_kept {text : String} (kept : IsKept text) :
    lineComment "//" text = "// " ++ text := by
  have single := splitAtChar_of_not_mem kept.unbroken.newline_not_mem
  rw [lineComment, single, List.map_singleton, kept.not_allBlank]
  rfl

include unbroken

theorem isKept_header : IsKept (Generator.header model) := by
  have header := unbroken.header
  have whole : ∃ text, Generator.header model = text ++ ". Do not edit." := ⟨_, rfl⟩
  obtain ⟨text, same⟩ := whole
  rw [same] at header ⊢
  exact .append (isUnbroken_append.mp header).1 (by decide)

theorem isKept_headLines : ∀ line ∈ headLines settings model, IsKept line := by
  intro line inside
  unfold headLines at inside
  split at inside
  · rw [List.mem_singleton.mp inside]
    exact .append (by decide) (isKept_header unbroken)
  · cases inside

theorem paragraphs_opening {imports : List String} (nonempty : imports ≠ [])
    (plain : ∀ imported ∈ imports, IsUnbroken imported) :
    ∀ lines ∈ openingParagraphs settings model imports, IsParagraph lines := by
  have line : ∀ start text : String, IsUnbroken start → IsUnbroken text →
      IsKept (start ++ text ++ ";") := fun start text first second =>
    .append (isUnbroken_append.mpr ⟨first, second⟩) (by decide)
  have head : ∀ line ∈ headLines settings model, IsKept line := isKept_headLines unbroken
  have written : ∀ line ∈ imports.map importLine, IsKept line := by
    intro kept inside
    obtain ⟨imported, member, rfl⟩ := List.mem_map.mp inside
    exact line _ _ (by decide) (plain imported member)
  have package : IsKept (packageLine model.package) :=
    line _ _ (by decide) unbroken.package
  unfold openingParagraphs
  split
  · refine List.forall_mem_singleton.mpr ⟨by simp [nonempty], ?_⟩
    exact List.forall_mem_append.mpr ⟨head, written⟩
  · refine List.forall_mem_cons.mpr ⟨⟨by simp, ?_⟩, List.forall_mem_singleton.mpr ⟨by simp [nonempty],
      written⟩⟩
    exact List.forall_mem_append.mpr ⟨head, List.forall_mem_singleton.mpr package⟩

theorem renderAll_opening_eq {context : Entries} {imports : List String}
    (header : context.get? "header" =
      some (if settings.addComments then .text (Generator.header model) else .null))
    (package : context.get? "package" = some (.text model.package))
    (imported : context.get? "imports" = some (.list (imports.map .text))) :
    renderAll context opening =
      .ok (textOf ((openingParagraphs settings model imports).flatMap (· ++ [""]))) := by
  have head : headText settings model = textOf (headLines settings model) := by
    have comment := lineComment_of_kept (isKept_header unbroken)
    unfold headText headLines
    split <;> simp [comment, textOf]
  rw [renderAll_opening_text header package imported, head, ← textOf_append]
  unfold openingParagraphs declarationLines
  by_cases default : model.package = "" <;> simp [default]

end Opening

/-- The opening of a unit determines the package. -/
theorem openingParagraphs_inj {settings : Settings} {first second : Model}
    {imports others : List String} {rest further : List (List String)}
    (same : openingParagraphs settings first imports ++ rest =
      openingParagraphs settings second others ++ further) :
    first.package = second.package ∧ rest = further := by
  have heads : (headLines settings first).length = (headLines settings second).length := by
    unfold headLines
    split <;> rfl
  -- An import stands where a unit with a package names it, and the two lines start differently.
  have different : ∀ (imports : List String) package tail,
      imports.map importLine ≠ packageLine package :: tail := by
    intro imports package tail equal
    cases imports with
    | nil => simp at equal
    | cons imported rest =>
      have line := congrArg String.toList (List.cons.inj equal).1
      simp [importLine, packageLine] at line
  unfold openingParagraphs at same
  split at same <;> split at same
  · next empty alsoEmpty =>
    exact ⟨empty.trans alsoEmpty.symm, (List.cons.inj same).2⟩
  · obtain ⟨start, _⟩ := List.cons.inj same
    exact absurd (List.append_inj start heads).2 (different _ _ _)
  · obtain ⟨start, _⟩ := List.cons.inj same
    exact absurd (List.append_inj start heads).2.symm (different _ _ _)
  · obtain ⟨start, tail⟩ := List.cons.inj same
    have line := List.singleton_inj.mp (List.append_inj start heads).2
    refine ⟨?_, (List.cons.inj tail).2⟩
    exact String.append_right_inj _ |>.mp (String.append_left_inj _ |>.mp line)

end SqlScaffold
