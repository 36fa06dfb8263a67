import SqlScaffold.Proofs.Scan.Declaration
import SqlScaffold.Proofs.Units.Mapper
import SqlScaffold.Proofs.Units.Support

/-!
The head of a unit: what stands before the package and the imports. The comment there marks every
line of the header, where only a line feed ends a line, but the final form of the source ends a line
at any boundary. What stands behind a boundary of another kind has lost its mark.
-/

namespace SqlScaffold

open Text Source Template

namespace Text

def startsTorn (text : String) : Bool := (text.toList.takeWhile isBlank).any isLineBoundary

theorem firstLine_blank_iff (current chars : List Char) : ∃ first rest,
    linesFrom current (chars ++ [';']) = first :: rest ∧
      ((∀ c ∈ first, isBlank c = true) ↔ (∀ c ∈ current, isBlank c = true) ∧
        (chars.takeWhile isBlank).any isLineBoundary = true) := by
  have plain : isLineBoundary ';' = false := by decide
  have visible : isBlank ';' = false := by decide
  fun_induction linesFrom current chars with
  | case1 current => exact ⟨_, [], by simp [linesFrom, plain]; rfl, by simp [visible]⟩
  | case2 current => exact ⟨_, [], by simp [linesFrom, plain]; rfl, by simp [visible]⟩
  | case3 current rest ih =>
    have carriage : isLineBoundary '\r' = true := by decide
    refine ⟨current.reverse, _, by simp only [List.cons_append, linesFrom]; rfl, ?_⟩
    simp [isBlank_of_isLineBoundary carriage, carriage]
  | case4 current c rest apart ends ih =>
    refine ⟨current.reverse, linesFrom [] (rest ++ [';']), ?_, ?_⟩
    · rw [List.cons_append, linesFrom, if_pos ends]
      exact apart_append apart (by simp)
    · simp [isBlank_of_isLineBoundary ends, ends]
  | case5 current c rest apart inside ih =>
    obtain ⟨first, others, lines, blank⟩ := ih
    refine ⟨first, others, ?_, ?_⟩
    · rw [List.cons_append, linesFrom, if_neg inside, lines]
      rintro next rfl _
      exact inside (by decide)
    · rw [blank, List.forall_mem_cons]
      by_cases empty : isBlank c = true
      · simp [empty, inside]
      · simp [empty]

end Text

namespace Source

def opensDeclarations (line : String) : Bool := startsWith "package " line || startsWith "import " line

def isComment (line : String) : Bool := startsWith "//" line

def IsHeadCommented (lines : List String) : Prop :=
  ∀ line ∈ lines.takeWhile fun line => !opensDeclarations line,
    allBlank line = true ∨ isComment line = true

instance (lines : List String) : Decidable (IsHeadCommented lines) := List.decidableBAll _ _

def isCode (line : String) : Bool := !allBlank line && !isComment line

def codeLines (lines : List String) : List String := lines.filter isCode

theorem isCode_of_opensDeclarations {line : String} (opens : opensDeclarations line = true) :
    isCode line = true := by
  have package : isBlank 'p' = false := by decide
  have imported : isBlank 'i' = false := by decide
  simp only [opensDeclarations, startsWith, Bool.or_eq_true, List.isPrefixOf_iff_prefix] at opens
  rcases opens with ⟨rest, same⟩ | ⟨rest, same⟩ <;>
    simp [isCode, allBlank, isComment, startsWith, ← same, package, imported, List.isPrefixOf]

/-- A head is commented if the first line that is neither blank nor a comment opens the
declarations. -/
theorem isHeadCommented_iff {lines : List String} :
    IsHeadCommented lines ↔
      ∀ line, (codeLines lines).head? = some line → opensDeclarations line = true := by
  induction lines with
  | nil => simp [IsHeadCommented, codeLines]
  | cons line rest ih =>
    unfold IsHeadCommented codeLines at ih ⊢
    by_cases opens : opensDeclarations line = true
    · simp [opens, isCode_of_opensDeclarations opens]
    · have behind : (line :: rest).takeWhile (fun line => !opensDeclarations line) =
          line :: rest.takeWhile fun line => !opensDeclarations line := by simp [opens]
      rw [behind, List.forall_mem_cons]
      by_cases code : isCode line = true
      · have stray : ¬(allBlank line = true ∨ isComment line = true) := by simpa [isCode] using code
        simp [opens, code, stray]
      · have passed : allBlank line = true ∨ isComment line = true := by
          simpa [isCode, Classical.or_iff_not_imp_left] using code
        rw [List.filter_cons_of_neg code, ← ih]
        exact and_iff_right passed

def codeOf (text : String) : List String := codeLines ((splitLines text).map trimEnd)

theorem codeLines_textLines (lines : List String) : codeLines (textLines lines) = codeLines lines := by
  rw [codeLines, textLines, List.filter_filter]
  exact List.filter_congr fun line _ => by cases blank : allBlank line <;> simp [isCode, blank]

theorem codeLines_append (first second : List String) :
    codeLines (first ++ second) = codeLines first ++ codeLines second := List.filter_append _ _

theorem codeOf_eq (text : String) : codeOf text = codeLines ((textLines (splitLines text)).map trimEnd) := by
  rw [codeOf, ← codeLines_textLines, textLines_map_trimEnd]

theorem codeLines_normalize (text : String) : codeLines (splitLines (normalize text)) = codeOf text := by
  rw [← codeLines_textLines, (isFinalFormOf_normalize text).lines, codeOf_eq]

theorem codeOf_append (first second : String) :
    codeOf (first ++ "\n" ++ second) = codeOf first ++ codeOf second := by
  simp only [codeOf_eq, textLines_splitLines_append, List.map_append, codeLines_append]

theorem codeOf_textOf_append (parts : List String) (rest : String) :
    codeOf (textOf parts ++ rest) = parts.flatMap codeOf ++ codeOf rest := by
  induction parts with
  | nil => simp [textOf]
  | cons part others ih =>
    rw [textOf, String.append_assoc, codeOf_append, ih, List.flatMap_cons, List.append_assoc]

theorem codeOf_of_blank {text : String} (blank : allBlank text = true) : codeOf text = [] := by
  refine List.filter_eq_nil_iff.mpr fun line inside => ?_
  obtain ⟨raw, listed, rfl⟩ := List.mem_map.mp inside
  simp [isCode, allBlank_trimEnd, allBlank_of_mem_splitLines blank raw listed]

def strayLines (text : String) : List String :=
  (splitAtChar '\n' text).flatMap fun line => (splitLines line).tail.map trimEnd

theorem codeOf_marked (line : String) :
    codeOf (if allBlank line then line else "//" ++ " " ++ line) =
      codeLines ((splitLines line).tail.map trimEnd) := by
  split
  · next blank =>
    rw [codeOf_of_blank blank]
    refine (List.filter_eq_nil_iff.mpr fun other inside => ?_).symm
    obtain ⟨raw, listed, rfl⟩ := List.mem_map.mp inside
    simp [isCode, allBlank_trimEnd,
      allBlank_of_mem_splitLines blank raw (List.mem_of_mem_tail listed)]
  · next text =>
    have filled : line ≠ "" := by
      rintro rfl
      exact text rfl
    have mark : IsUnbroken ("//" ++ " ") := by decide
    obtain ⟨first, rest, lines, marked⟩ := splitLines_append_start mark filled
    have comment : ¬isCode (trimEnd ("//" ++ " " ++ first)) = true := by
      rw [String.append_assoc, trimEnd_append_eq]
      split
      · decide
      · simp [isCode, isComment, startsWith, List.isPrefixOf]
    rw [codeOf, marked, lines, List.map_cons, codeLines, List.filter_cons_of_neg comment]
    rfl

/-- Of a comment, only what has lost its mark is code. -/
theorem codeOf_lineComment (text rest : String) :
    codeOf (lineComment "//" text ++ "\n" ++ rest) = codeLines (strayLines text) ++ codeOf rest := by
  have nonempty : ((splitAtChar '\n' text).map fun line =>
      if allBlank line then line else "//" ++ " " ++ line) ≠ [] := by
    simpa using splitAtChar_ne_nil '\n' text
  rw [lineComment, ← textOf_eq_joinWith nonempty, codeOf_textOf_append, List.flatMap_map, strayLines,
    codeLines, List.filter_flatMap]
  rw [List.flatMap_congr fun line _ => codeOf_marked line]
  rfl

/-- A package or an import opens the declarations, unless a line ends among its first blanks. -/
theorem codeOf_declaration {word : String} (known : word = "package " ∨ word = "import ")
    (text : String) : ∃ line rest, codeOf (word ++ text ++ ";") = line :: rest ∧
      (opensDeclarations line = true ↔ startsTorn text = false) := by
  have unbroken : IsUnbroken word := by
    rcases known with rfl | rfl <;> decide
  have filled : text ++ ";" ≠ "" := by simp
  obtain ⟨first, rest, lines, marked⟩ := splitLines_append_start unbroken filled
  obtain ⟨chars, others, read, blank⟩ := firstLine_blank_iff [] text.toList
  have same : first = String.ofList chars := by
    rw [splitLines, String.toList_append] at lines
    exact ((List.cons.inj ((congrArg (List.map String.ofList) read).symm.trans lines)).1).symm
  have torn : allBlank first = startsTorn text := by
    rw [Bool.eq_iff_iff, same]
    simpa [allBlank, startsTorn] using blank
  have opens : isCode (trimEnd (word ++ first)) = true ∧
      (opensDeclarations (trimEnd (word ++ first)) = true ↔ startsTorn text = false) := by
    rw [trimEnd_append_eq, torn]
    cases startsTorn text with
    | true =>
      rw [if_pos rfl]
      rcases known with rfl | rfl <;> decide
    | false =>
      have opens : opensDeclarations (word ++ trimEnd first) = true := by
        rcases known with rfl | rfl <;> simp [opensDeclarations, startsWith, List.isPrefixOf]
      simpa [opens] using isCode_of_opensDeclarations opens
  refine ⟨trimEnd (word ++ first), codeLines (rest.map trimEnd), ?_, opens.2⟩
  rw [codeOf, String.append_assoc, marked, List.map_cons, codeLines,
    List.filter_cons_of_pos opens.1]
  rfl

end Source

def Model.firstDeclared (model : Model) (imports : List String) : String :=
  if model.package = "" then imports.headD "" else model.package

/-- What the header of a unit says stays a comment, or what has lost its mark opens the
declarations. Where nothing has lost it, the first declaration is not torn at its start. -/
structure Model.KeepsHead (model : Model) (imports : List String) : Prop where
  stray : IsHeadCommented (strayLines (Generator.header model))
  declared : codeLines (strayLines (Generator.header model)) = [] →
    startsTorn (model.firstDeclared imports) = false

theorem codeOf_declarationLines (model : Model) {imports : List String} (nonempty : imports ≠ [])
    (behind : String) : ∃ line rest,
      codeOf (textOf (declarationLines model imports ++ [""]) ++ behind) = line :: rest ∧
        (opensDeclarations line = true ↔ startsTorn (model.firstDeclared imports) = false) := by
  obtain ⟨imported, others, rfl⟩ := List.exists_cons_of_ne_nil nonempty
  rw [codeOf_textOf_append, declarationLines, Model.firstDeclared]
  by_cases default : model.package = ""
  · obtain ⟨line, rest, code, opens⟩ := codeOf_declaration (.inr rfl) imported
    have same : codeOf (importLine imported) = line :: rest := code
    exact ⟨line, _, by simp [default, same]; rfl, by simpa [default] using opens⟩
  · obtain ⟨line, rest, code, opens⟩ := codeOf_declaration (.inl rfl) model.package
    have same : codeOf (packageLine model.package) = line :: rest := code
    exact ⟨line, _, by simp [default, same]; rfl, by simpa [default] using opens⟩

/-- Whatever stands behind the opening of a unit, its head depends on the opening only. -/
theorem isHeadCommented_normalize {settings : Settings} (comments : settings.addComments)
    (model : Model) {imports : List String} (nonempty : imports ≠ []) (behind : String) :
    IsHeadCommented (splitLines (normalize
      (headText settings model ++ textOf (declarationLines model imports ++ [""]) ++ behind))) ↔
      model.KeepsHead imports := by
  obtain ⟨line, rest, code, opens⟩ := codeOf_declarationLines model nonempty behind
  rw [isHeadCommented_iff, codeLines_normalize, headText, if_pos comments, String.append_assoc,
    codeOf_lineComment, code]
  cases stray : codeLines (strayLines (Generator.header model)) with
  | nil =>
    have kept : IsHeadCommented (strayLines (Generator.header model)) := by
      simp [isHeadCommented_iff, stray]
    rw [List.nil_append, List.head?_cons]
    constructor
    · exact fun first => ⟨kept, fun _ => opens.mp (first line rfl)⟩
    · rintro ⟨_, declared⟩ other same
      exact Option.some.inj same ▸ opens.mpr (declared stray)
  | cons first others =>
    rw [List.cons_append, List.head?_cons, ← List.head?_cons (l := others), ← stray,
      ← isHeadCommented_iff]
    constructor
    · exact fun kept => ⟨kept, fun among => by simp [stray] at among⟩
    · exact Model.KeepsHead.stray

theorem Text.startsTorn_of_unbroken {text : String} (unbroken : IsUnbroken text) :
    startsTorn text = false := by
  rw [startsTorn, List.any_eq_false]
  intro c inside
  simp [unbroken c ((List.takeWhile_prefix isBlank).subset inside)]

theorem Model.HasUnbrokenTexts.keepsHead {model : Model} (unbroken : model.HasUnbrokenTexts)
    {imports : List String} (plain : ∀ imported ∈ imports, IsUnbroken imported) :
    model.KeepsHead imports := by
  have header := isKept_header unbroken
  have whole : splitLines (Generator.header model) = [Generator.header model] := by
    have read := linesFrom_append_inline header.unbroken [] []
    have nonempty : (Generator.header model).toList ≠ [] := by simpa using header.filled
    simpa [splitLines, linesFrom, nonempty] using congrArg (List.map String.ofList) read
  have clean : strayLines (Generator.header model) = [] := by
    simp [strayLines, splitAtChar_of_not_mem header.unbroken.newline_not_mem, whole]
  refine ⟨by simp [clean, IsHeadCommented], fun _ => startsTorn_of_unbroken ?_⟩
  unfold Model.firstDeclared
  split
  · cases imports with
    | nil => exact isInline_nil
    | cons imported rest => exact plain imported List.mem_cons_self
  · exact unbroken.package

namespace Generator

variable {generator : Generator} {model : Model}

theorem body_opening {width : Nat} {template name : String} {entries : Entries}
    {imports : List String} {parts : List Part} {unit : SourceUnit}
    (found : generator.library.find template = .ok (opening ++ parts))
    (header : Entries.get? (entries ++ commonEntries generator.settings width model) "header" =
      some (if generator.settings.addComments then .text (Generator.header model) else .null))
    (package : Entries.get? (entries ++ commonEntries generator.settings width model) "package" =
      some (.text model.package))
    (imported : Entries.get? (entries ++ commonEntries generator.settings width model) "imports" =
      some (.list (imports.map .text)))
    (rendered : generator.render width template model entries name = .ok unit) :
    ∃ behind, unit.body = normalize (headText generator.settings model ++
      textOf (declarationLines model imports ++ [""]) ++ behind) := by
  obtain ⟨text, written, body⟩ := renderAll_of_render found rendered
  obtain ⟨before, behind, opened, _, rfl⟩ := exists_of_renderAll_append written
  rw [renderAll_opening_text header package imported] at opened
  exact ⟨behind, by rw [body, Except.ok.inj opened]⟩

def CommentsHeads (generator : Generator) (model : Model) : Prop :=
  ∃ support mapper, generator.units model = .ok [support, mapper] ∧
    IsHeadCommented (splitLines support.body) ∧ IsHeadCommented (splitLines mapper.body)

theorem isHeadCommented_units (shipped : generator.library = .shipped)
    (comments : generator.settings.addComments)
    (named : ∀ field ∈ model.fields, field.name ≠ "") {support mapper : SourceUnit}
    (made : generator.units model = .ok [support, mapper]) :
    (IsHeadCommented (splitLines support.body) ↔
        model.KeepsHead (generator.support model).imports) ∧
      (IsHeadCommented (splitLines mapper.body) ↔
        model.KeepsHead (generator.mapper 0 model).imports) := by
  obtain ⟨width, interface, first, second, _, formed, supported, mapped, paired⟩ :=
    rendered_of_units made
  obtain ⟨rfl, rfl⟩ : support = first ∧ mapper = second := by simpa using paired
  obtain rfl := Except.ok.inj (formed.symm.trans (Mapper.Interface.ofModel_eq _ _ width _ named))
  constructor
  · have found : generator.library.find tableSupportName = .ok tableSupport :=
      shipped ▸ find_tableSupport
    obtain ⟨behind, body⟩ := body_opening found rfl rfl rfl supported
    rw [body]
    exact isHeadCommented_normalize comments model (support_imports_ne_nil generator model) behind
  · have found : generator.library.find mapperName = .ok Template.mapper := shipped ▸ find_mapper
    obtain ⟨behind, body⟩ := body_opening found rfl rfl rfl mapped
    have imports : (generator.mapper width model).imports = (generator.mapper 0 model).imports :=
      Mapper.imports_of_eq _ _ _ _ width 0
    rw [body, ← imports]
    exact isHeadCommented_normalize comments model (mapper_imports_ne_nil generator width model)
      behind

end Generator

/-- For a declared model, the heads of both units are comments exactly if the indentation can be
written, and the header and the first declarations keep them so. -/
theorem Generator.commentsHeads_iff {settings : Settings} {generator : Generator}
    (made : Generator.make settings .shipped = .ok generator) (comments : settings.addComments)
    {value : Value} {defaultPackage : Option String} {model : Model}
    (scanned : (Scan.Input.scan (.declaration value) defaultPackage).value = .ok model) :
    generator.CommentsHeads model ↔ settings.Indentable ∧
      model.KeepsHead (generator.support model).imports ∧
      model.KeepsHead (generator.mapper 0 model).imports := by
  obtain ⟨rfl, shipped⟩ := Generator.make_eq_ok made
  have named : ∀ field ∈ model.fields, field.name ≠ "" :=
    fun field inside => (Scan.named_of_scan scanned field inside).1
  rw [← Generator.units_ok_iff shipped (.of_named named)]
  constructor
  · rintro ⟨support, mapper, units, first, second⟩
    have heads := Generator.isHeadCommented_units shipped comments named units
    exact ⟨⟨support, mapper, units⟩, heads.1.mp first, heads.2.mp second⟩
  · rintro ⟨⟨support, mapper, units⟩, first, second⟩
    have heads := Generator.isHeadCommented_units shipped comments named units
    exact ⟨support, mapper, units, heads.1.mpr first, heads.2.mpr second⟩

def bareDeclaration (package name : String) : Value :=
  .object [("package", .text package), ("name", .text name)]

theorem Generator.commentsHeads_order : ∃ model,
    Generator.make {} .shipped = .ok Generator.standard ∧ ({} : Settings).addComments ∧
      (Scan.Input.scan (.declaration (bareDeclaration "com.example" "Order")) none).value =
        .ok model ∧ Generator.standard.CommentsHeads model := by
  let model := Generator.fieldless "com.example" "Order" (by decide)
  have made : Generator.make {} .shipped = .ok Generator.standard := rfl
  have comments : ({} : Settings).addComments := rfl
  have scanned : (Scan.Input.scan (.declaration (bareDeclaration "com.example" "Order")) none).value =
      .ok model := rfl
  have unbroken : model.HasUnbrokenTexts := by
    refine ⟨by decide, by decide, nofun, nofun, fun table given => ?_⟩
    obtain rfl : "" = table := Option.some.inj given
    decide
  refine ⟨model, made, comments, scanned,
    (Generator.commentsHeads_iff made comments scanned).mpr ⟨by decide, ?_, ?_⟩⟩
  · exact unbroken.keepsHead (Generator.support_imports Generator.standard unbroken).2
  · exact unbroken.keepsHead (Generator.mapper_imports Generator.standard 0 unbroken).2

/-- A vertical tab in a name ends the comment, and the rest of the header is code. -/
theorem Generator.not_commentsHeads_tabbed : ∃ model,
    Generator.make {} .shipped = .ok Generator.standard ∧ ({} : Settings).addComments ∧
      (Scan.Input.scan (.declaration (bareDeclaration "com.example" "A\x0bB")) none).value =
        .ok model ∧ (∃ units, Generator.standard.units model = .ok units) ∧
      ¬Generator.standard.CommentsHeads model := by
  let model := Generator.fieldless "com.example" "A\x0bB" (by decide)
  have named : ∀ field ∈ model.fields, field.name ≠ "" := nofun
  refine ⟨model, rfl, rfl, rfl, ?written, ?torn⟩
  case written => exact (Generator.units_shipped rfl (.of_named named)).1 (by decide)
  case torn =>
    rintro ⟨support, mapper, units, first, _⟩
    have kept := (Generator.isHeadCommented_units rfl rfl named units).1.mp first
    have lines : strayLines (Generator.header model) = ["B. Do not edit."] := by decide +kernel
    have stray := kept.stray
    rw [lines] at stray
    exact absurd stray (by decide)

end SqlScaffold
