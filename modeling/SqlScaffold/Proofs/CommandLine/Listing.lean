import SqlScaffold.Proofs.CommandLine.Execution
import SqlScaffold.Proofs.Console.Wrapping

/-!
What a command shows of a report: its tables, and lists of its warnings and its diagnostics. An item
of a list is marked text, so the console takes what stands between brackets for a tag. The kind of a
diagnostic stands between brackets and is never seen.
-/

namespace SqlScaffold.CommandLine

open Console Emit Scan Text

section Lists

def bullet : List Char := "  • ".toList

def itemLines (item : List Char) : List String := linesOf (bullet ++ item)

def listLines (heading : String) (items : List (List Char)) : List String :=
  if items.isEmpty then [] else "" :: heading :: items.flatMap itemLines

theorem shownLines_eq {marked : String} (printable : Printable marked) :
    shownLines marked = linesOf (shown marked.toList) := by
  obtain ⟨lines, printed⟩ := (printedLines_ok_iff marked).mpr printable
  rw [← lines_of_printedLines printed, shownLines, printed]
  rfl

theorem isTagName_yellow : IsTagName "yellow" where
  named := isStyleName_of_lone (by decide +kernel) (by decide +kernel)
  starts := by decide
  closed := by decide

theorem isTagName_red : IsTagName "red" where
  named := isStyleName_of_lone (by decide +kernel) (by decide +kernel)
  starts := by decide
  closed := by decide

variable {color : String}

/-- What the console makes of an item: a bullet between the tags of its color, and then a blank and
the item itself. -/
theorem scan_itemText (tag : IsTagName color) (item : String) :
    ∃ first second place, scan 0 0 0 [] (itemText color item).toList =
      .plain [' ', ' '] :: .plain [] :: .tag first color.toList :: .plain ['•'] :: .plain [] ::
        .tag second ('/' :: color.toList) :: scan place 0 0 [] (' ' :: item.toList) := by
  have text : (itemText color item).toList = ' ' :: ' ' :: '[' :: (color.toList ++ ']' ::
      '•' :: '[' :: ('/' :: color.toList ++ ']' :: ' ' :: item.toList)) := by
    simp [itemText]
  have indented (rest : List Char) :
      scan 0 0 0 [] (' ' :: ' ' :: rest) = scan 2 0 0 [' ', ' '] rest := by
    simp [scan]
  have bulleted (place : Nat) (rest : List Char) :
      scan place 0 0 [] ('•' :: rest) = scan (place + 1) 0 0 ['•'] rest := by
    simp [scan]
  rw [text, indented, scan_tag (tag.opens _), bulleted, scan_tag (tag.closes _)]
  exact ⟨_, _, _, rfl⟩

theorem shown_itemText (tag : IsTagName color) (item : String) :
    shown (itemText color item).toList = bullet ++ shown item.toList := by
  obtain ⟨first, second, place, pieces⟩ := scan_itemText tag item
  rw [shown, pieces]
  simp only [List.flatMap_cons, Piece.shown]
  rw [shown_scan place 0, ← shown, shown_cons (by decide)]
  rfl

theorem printable_itemText (tag : IsTagName color) {item : String}
    (readable : ∀ place, IsReadable (scan place 0 0 [] (' ' :: item.toList))) :
    Printable (itemText color item) := by
  obtain ⟨first, second, place, pieces⟩ := scan_itemText tag item
  refine printable_of_isReadable ?_
  rw [pieces]
  exact (((readable place).styled tag.named first second _).plain []).plain _

theorem isReadable_of_tagless {chars : List Char} (tagless : IsTagless chars) (place : Nat) :
    IsReadable (scan place 0 0 [] (' ' :: chars)) := by
  rw [scan_of_tagless tagless.spaced]
  exact isReadable_nil.plain _

structure Heads (color heading : String) : Prop where
  printable : Printable (titleText color heading)
  lines : shownLines (titleText color heading) = ["", heading]
  bulleted : ∀ item, shown (itemText color item).toList = bullet ++ shown item.toList

theorem heads_warnings : Heads "yellow" "⚠️  Warnings:" where
  printable := printable_warnings
  lines := by
    rw [shownLines_eq printable_warnings]
    decide +kernel
  bulleted := shown_itemText isTagName_yellow

theorem heads_failures : Heads "red" "✗ Failures:" where
  printable := printable_failures
  lines := by
    rw [shownLines_eq printable_failures]
    decide +kernel
  bulleted := shown_itemText isTagName_red

theorem outcome_printList {color heading : String} (heads : Heads color heading)
    {items : List String} (listed : ∀ item ∈ items, Printable (itemText color item))
    (traces : Traces) :
    outcome (printList color heading items) traces =
      (.ok (), traces.shown (listLines heading (items.map fun item => shown item.toList))) := by
  unfold printList
  split
  · next empty => simp [listLines, Traces.shown, empty]
  · next nonempty =>
    have headed : outcome (print (titleText color heading)) traces =
        (.ok (), traces.shown ["", heading]) := by
      rw [outcome_print heads.printable, heads.lines]
    have lines (item : String) (inside : item ∈ items) :
        shownLines (itemText color item) = itemLines (shown item.toList) := by
      rw [shownLines_eq (listed item inside), heads.bulleted, itemLines]
    have each : outcome (items.forM fun item => print (itemText color item))
        (traces.shown ["", heading]) =
          (.ok (), traces.shown (listLines heading (items.map fun item => shown item.toList))) := by
      rw [outcome_forM_print listed, Traces.shown_shown, List.flatMap_congr lines, listLines,
        List.isEmpty_map, if_neg nonempty, List.flatMap_map]
      rfl
    rw [titleText] at headed
    rw [outcome_bind_of_ok headed]
    exact each

end Lists

section Presenting

variable {report : Report} {directory : Option String} {arguments : Arguments}

def tableLines (table : Table) : List String := table.lines.toOption.getD []

theorem outcome_printTable {table : Table} (drawable : table.Drawable) (traces : Traces) :
    outcome (printTable table) traces = (.ok (), traces.shown (tableLines table)) := by
  obtain ⟨lines, drawn⟩ := table.lines_ok_iff.mpr drawable
  simp [printTable, tableLines, drawn, Except.toOption]

def overviewLines (report : Report) (directory : Option String) (arguments : Arguments) :
    List String :=
  (if arguments.dryRun || directory.isSome then
    tableLines (artifactTable report directory arguments.dryRun) else []) ++
  if arguments.verbose then "" :: tableLines (summaryTable report) else []

def problemLines (report : Report) : List String :=
  listLines "⚠️  Warnings:" (report.warnings.map fun warning => shown warning.toList) ++
  listLines "✗ Failures:" (report.diagnostics.map fun diagnostic => shown diagnostic.text.toList)

theorem outcome_onlyIf {condition : Bool} {step : Step Unit} {lines : List String}
    {traces : Traces}
    (shows : condition = true → outcome step traces = (.ok (), traces.shown lines)) :
    outcome (onlyIf condition step) traces =
      (.ok (), traces.shown (if condition then lines else [])) := by
  cases condition with
  | false => simp [onlyIf, Traces.shown]
  | true => simpa [onlyIf] using shows rfl

theorem outcome_present (shows : Shows report directory arguments) (traces : Traces) :
    outcome (present report directory arguments) traces =
      (.ok (), traces.shown (overviewLines report directory arguments ++ problemLines report)) := by
  have failed : ∀ item ∈ report.diagnostics.map Diagnostic.text,
      Printable (itemText "red" item) := List.forall_mem_map.mpr shows.diagnostics
  have counted (traces : Traces) : outcome (printLines [""] >>= fun _ =>
      printTable (summaryTable report)) traces =
        (.ok (), traces.shown ("" :: tableLines (summaryTable report))) := by
    rw [outcome_bind_of_ok (outcome_printLines _ _),
      outcome_printTable (drawable_summaryTable report), Traces.shown_shown]
    rfl
  rw [present, outcome_bind_of_ok (outcome_onlyIf fun given => outcome_printTable
    (shows.table given) traces), outcome_bind_of_ok (outcome_onlyIf fun _ => counted _),
    outcome_bind_of_ok (outcome_printList heads_warnings shows.warnings _),
    outcome_printList heads_failures failed]
  simp only [Traces.shown_shown, List.map_map, overviewLines, problemLines, List.append_assoc]
  rfl

end Presenting

section Diagnostics

def statement (diagnostic : Diagnostic) : String :=
  diagnostic.subject ++ ": " ++ diagnostic.message

/-- A word that is neither a color nor anything else opens a tag all the same. -/
theorem isTagName_of_kind {kind : String}
    (known : kind = "scan" ∨ kind = "generation" ∨ kind = "emission") : IsTagName kind := by
  rcases known with rfl | rfl | rfl
  · exact ⟨isStyleName_of_lone (by decide +kernel) (by decide +kernel), by decide, by decide⟩
  · exact ⟨isStyleName_of_lone (by decide +kernel) (by decide +kernel), by decide, by decide⟩
  · exact ⟨isStyleName_of_lone (by decide +kernel) (by decide +kernel), by decide, by decide⟩

variable {diagnostic : Diagnostic}

theorem toList_text (diagnostic : Diagnostic) : diagnostic.text.toList =
    '[' :: (diagnostic.kind.toList ++ ']' :: ' ' :: (statement diagnostic).toList) := by
  simp [Diagnostic.text, statement]

/-- The kind of a diagnostic is taken for a tag. -/
theorem shown_text (tag : IsTagName diagnostic.kind) :
    shown diagnostic.text.toList = ' ' :: shown (statement diagnostic).toList := by
  rw [toList_text, shown_tag (tag.opens _), shown_cons (by decide)]

theorem printable_text (tag : IsTagName diagnostic.kind)
    (tagless : IsTagless (statement diagnostic).toList) :
    Printable (itemText "red" diagnostic.text) := by
  refine printable_itemText isTagName_red fun place => ?_
  have spaced (rest : List Char) :
      scan place 0 0 [] (' ' :: '[' :: rest) = scan (place + 1) 0 0 [' '] ('[' :: rest) := by
    simp [scan]
  rw [toList_text, spaced, scan_tag (tag.opens _), scan_of_tagless tagless.spaced]
  exact ((isReadable_open tag.named _ _).plain []).plain _

theorem shows_of_tagless {report : Report} {directory : Option String} {arguments : Arguments}
    (plain : ∀ row ∈ (artifactTable report directory arguments.dryRun).rows,
      '[' ∉ row.1.toList ∧ '[' ∉ row.2.toList)
    (warnings : ∀ warning ∈ report.warnings, IsTagless warning.toList)
    (diagnostics : ∀ diagnostic ∈ report.diagnostics,
      IsTagName diagnostic.kind ∧ IsTagless (statement diagnostic).toList) :
    Shows report directory arguments where
  table _ := Table.drawable_of_plain plain
  warnings warning inside := printable_itemText isTagName_yellow
    (isReadable_of_tagless (warnings warning inside))
  diagnostics diagnostic inside := by
    obtain ⟨tag, tagless⟩ := diagnostics diagnostic inside
    exact printable_text tag tagless

end Diagnostics

/-- Below a heading the console shows items in full, one after the other, each behind a bullet.
Where their lines are broken does not count. -/
def ListsInFull (heading : String) (items printed : List String) : Prop :=
  ∃ above lines below, printed = above ++ heading :: (lines ++ below) ∧
    lines.flatMap (fun line => seen line.toList) =
      items.flatMap fun item => '•' :: seen item.toList

/-- How the problems of a report are shown below what stands `above`. Every item goes on over as
many lines as it needs, which takes nothing but blanks from it; an item that fits in one line has
one. The kind of a diagnostic is never shown, so that only a blank is left in front of what it says;
and of all texts without names of pictures, exactly those are shown as they are in which nothing is
marked. -/
structure ListsProblems (report : Report) (above printed : List String) : Prop where
  listed : printed = above ++ problemLines report
  broken : ∀ item, (itemLines item).flatMap (fun line => seen line.toList) = '•' :: seen item
  whole : ∀ item, '\n' ∉ item → '\t' ∉ item → cells (bullet ++ item) ≤ consoleWidth →
    itemLines item = [finishLine (bullet ++ item)]
  kindless : ∀ diagnostic ∈ report.diagnostics,
    shown diagnostic.text.toList = ' ' :: shown (statement diagnostic).toList ∧
      shown diagnostic.text.toList ≠ diagnostic.text.toList
  exact : ∀ text ∈ report.warnings ++ report.diagnostics.map statement,
    IsUnmarked text.toList → shown text.toList = text.toList
  exact_iff : ∀ text ∈ report.warnings ++ report.diagnostics.map statement,
    colonsApart false text.toList = true →
      (shown text.toList = text.toList ↔ IsUnmarked text.toList)
  warned : report.warnings ≠ [] → (∀ warning ∈ report.warnings, IsUnmarked warning.toList) →
    ListsInFull "⚠️  Warnings:" report.warnings printed
  told : report.diagnostics ≠ [] →
    (∀ diagnostic ∈ report.diagnostics, IsUnmarked (statement diagnostic).toList) →
      ListsInFull "✗ Failures:" (report.diagnostics.map statement) printed

theorem seen_itemLines (item : List Char) :
    (itemLines item).flatMap (fun line => seen line.toList) = '•' :: seen item := by
  have bulleted : seen bullet = ['•'] := by decide +kernel
  rw [itemLines, seen_linesOf, seen_append, bulleted, List.singleton_append]

theorem itemLines_of_fits {item : List Char} (unbroken : '\n' ∉ item) (untabbed : '\t' ∉ item)
    (fits : cells (bullet ++ item) ≤ consoleWidth) :
    itemLines item = [finishLine (bullet ++ item)] := by
  have plain : '\n' ∉ bullet ∧ '\t' ∉ bullet := by decide
  refine linesOf_of_fits ?_ ?_ fits
  · exact fun inside => (List.mem_append.mp inside).elim plain.1 unbroken
  · exact fun inside => (List.mem_append.mp inside).elim plain.2 untabbed

theorem listsInFull_of_listLines {ι : Type} {heading : String} {items : List ι}
    {marked told : ι → String} (nonempty : items ≠ [])
    (same : ∀ item ∈ items, seen (shown (marked item).toList) = seen (told item).toList)
    (above below : List String) :
    ListsInFull heading (items.map told)
      (above ++ listLines heading (items.map fun item => shown (marked item).toList) ++ below) := by
  refine ⟨above ++ [""], items.flatMap fun item => itemLines (shown (marked item).toList), below,
    ?_, ?_⟩
  · rw [listLines, List.isEmpty_map, if_neg (by simpa using nonempty), List.flatMap_map]
    simp
  · rw [List.flatMap_assoc, List.flatMap_map]
    refine List.flatMap_congr fun item inside => ?_
    rw [seen_itemLines, same item inside]

theorem listsProblems_of_kinds {report : Report} {above printed : List String}
    (kinds : ∀ diagnostic ∈ report.diagnostics,
      diagnostic.kind = "scan" ∨ diagnostic.kind = "generation" ∨ diagnostic.kind = "emission")
    (listed : printed = above ++ problemLines report) : ListsProblems report above printed := by
  have shows : ∀ diagnostic ∈ report.diagnostics,
      shown diagnostic.text.toList = ' ' :: shown (statement diagnostic).toList :=
    fun diagnostic member => shown_text (isTagName_of_kind (kinds diagnostic member))
  refine ⟨listed, seen_itemLines, fun _ => itemLines_of_fits, ?kindless, ?exact, ?exact_iff,
    ?warned, ?told⟩
  case kindless =>
    refine fun diagnostic member => ⟨shows diagnostic member, fun same => ?_⟩
    rw [shows diagnostic member] at same
    simp [Diagnostic.text] at same
  case exact => exact fun text _ unmarked => shown_eq_self unmarked
  case exact_iff => exact fun text _ apart => shown_eq_self_iff apart
  case warned =>
    intro nonempty unmarked
    have same : ∀ warning ∈ report.warnings, seen (shown warning.toList) = seen warning.toList :=
      fun warning inside => congrArg seen (shown_eq_self (unmarked warning inside))
    have full : ListsInFull "⚠️  Warnings:" _ _ := listsInFull_of_listLines nonempty same above
      (listLines "✗ Failures:" (report.diagnostics.map fun diagnostic =>
        shown diagnostic.text.toList))
    rw [List.map_id'] at full
    rw [listed, problemLines, ← List.append_assoc]
    exact full
  case told =>
    intro nonempty unmarked
    have same : ∀ diagnostic ∈ report.diagnostics,
        seen (shown diagnostic.text.toList) = seen (statement diagnostic).toList := by
      intro diagnostic inside
      rw [shows diagnostic inside, shown_eq_self (unmarked diagnostic inside)]
      rfl
    have full : ListsInFull "✗ Failures:" _ _ := listsInFull_of_listLines nonempty same (above ++
      listLines "⚠️  Warnings:" (report.warnings.map fun warning => shown warning.toList)) []
    rw [List.append_nil] at full
    rw [listed, problemLines, ← List.append_assoc]
    exact full

section Command

variable {surroundings : Surroundings} {arguments : Arguments} {before : Traces}
  {settings : Settings} {inputs : List Input} {generator : Generator}

def aboveProblems (settings : Settings) (generator : Generator) (inputs : List Input)
    (arguments : Arguments) (before : Traces) : List String :=
  let progress := progressOf settings generator inputs arguments before
  progress.state.printed ++
    overviewLines progress.report (CommandLine.given settings.outputDirectory) arguments

theorem printed_execute {code : Nat}
    (ready : Ready surroundings arguments before.tree settings inputs generator)
    (answered : (outcome (execute surroundings arguments) before).1 = .ok code) :
    (outcome (execute surroundings arguments) before).2.printed =
      aboveProblems settings generator inputs arguments before ++
        problemLines (progressOf settings generator inputs arguments before).report := by
  obtain ⟨leveled, printable, returned, shows⟩ := (answers_execute_iff ready).mp ⟨code, answered⟩
  obtain ⟨same, _⟩ := Generator.make_eq_ok ready.made
  have ran := outcome_runGenerator generator inputs arguments
    (before.readied surroundings arguments settings inputs)
  rw [runFor_readied ready, returned] at ran
  rw [outcome_execute_of_ready ready leveled printable, generate_eq]
  dsimp only
  rw [outcome_bind_of_ok ran, same, outcome_bind_of_ok (outcome_present shows _)]
  simp only [outcome_pure, Traces.shown, Traces.ran, runFor_readied ready, aboveProblems,
    List.append_assoc]

/-- What a command shows at the end are the warnings and the diagnostics of its run. -/
theorem execute_listsProblems {code : Nat}
    (ready : Ready surroundings arguments before.tree settings inputs generator)
    (answered : (outcome (execute surroundings arguments) before).1 = .ok code) :
    ListsProblems (progressOf settings generator inputs arguments before).report
      (aboveProblems settings generator inputs arguments before)
      (outcome (execute surroundings arguments) before).2.printed := by
  obtain ⟨_, _, returned, _⟩ := (answers_execute_iff ready).mp ⟨code, answered⟩
  obtain ⟨_, summary⟩ := Run.run_summary returned
  exact listsProblems_of_kinds summary.kinds (printed_execute ready answered)

def namelessDocument : String := "\x7b\x7d"

theorem ready_nameless : Ready ⟨[], .timeout⟩ trial (tracesOf namelessDocument).tree {}
    ([.object []].map .declaration) .standard := by
  have parsed : Json.read namelessDocument = .ok (.object []) := by
    simp only [Json.read, Json.readWith, namelessDocument, String.reduceToList]
    rfl
  exact ready_trial (by decide +kernel) (by decide +kernel) parsed rfl

def missingName : Diagnostic := ⟨"scan", "input #0", "Model declaration is missing a name"⟩

def namelessReport : Report where
  diagnostics := [missingName]

theorem progress_nameless : trialProgress namelessDocument [.object []] =
    ⟨namelessReport, startOf {} (tracesOf namelessDocument), none⟩ := by
  rw [trialProgress, progressOf, Run.value_run, List.map_singleton,
    Run.value_runFrom_rejected _ _ _ rfl]
  rfl

theorem code_nameless :
    (outcome (execute ⟨[], .timeout⟩ trial) (tracesOf namelessDocument)).1 = .ok 1 := by
  have shows : Shows (trialProgress namelessDocument [.object []]).report none trial := by
    rw [progress_nameless]
    refine shows_of_tagless (by simp [artifactTable, namelessReport]) (by simp [namelessReport]) ?_
    refine List.forall_mem_singleton.mpr ⟨isTagName_of_kind (.inl rfl), ?_⟩
    exact isTagless_of_unopened (by decide)
  obtain ⟨code, answered⟩ := (answers_execute_iff ready_nameless).mpr
    ⟨by decide, by decide, congrArg Progress.failure progress_nameless, shows⟩
  have same := (code_of_execute ready_nameless answered).1
  rw [← trialProgress, progress_nameless] at same
  rw [answered, same]
  rfl

/-- All hypotheses hold of a trial of that document, which ends with 1. -/
theorem execute_listsProblems_nameless :
    Ready ⟨[], .timeout⟩ trial (tracesOf namelessDocument).tree {}
        ([.object []].map .declaration) .standard ∧
      (outcome (execute ⟨[], .timeout⟩ trial) (tracesOf namelessDocument)).1 = .ok 1 ∧
      ListsProblems (trialProgress namelessDocument [.object []]).report
        (aboveProblems {} .standard ([.object []].map .declaration) trial
          (tracesOf namelessDocument))
        (outcome (execute ⟨[], .timeout⟩ trial) (tracesOf namelessDocument)).2.printed :=
  ⟨ready_nameless, code_nameless, execute_listsProblems ready_nameless code_nameless⟩

theorem isUnmarked_missingName : IsUnmarked (statement missingName).toList := by
  have unopened : '[' ∉ (statement missingName).toList := by decide
  have printed : ((statement missingName).toList.all fun c => !isDropped c) = true := by decide
  refine ⟨isTagless_of_unopened unopened, unescaped_of_unopened unopened, ?_, ?_⟩
  · exact replaceEmojis_of_apart (by decide +kernel)
  · simpa using List.all_eq_true.mp printed

theorem printed_nameless :
    (outcome (execute ⟨[], .timeout⟩ trial) (tracesOf namelessDocument)).2.printed =
      ["", " 🧪 Would Generate", "╭──────────┬──────╮", "│ Artifact │ File │",
        "├──────────┼──────┤", "╰──────────┴──────╯", "", "✗ Failures:",
        "  •  input #0: Model declaration is missing a name"] := by
  have overview : overviewLines namelessReport none trial =
      [" 🧪 Would Generate", "╭──────────┬──────╮", "│ Artifact │ File │",
        "├──────────┼──────┤", "╰──────────┴──────╯"] := by
    decide +kernel
  have told : itemLines (shown missingName.text.toList) =
      ["  •  input #0: Model declaration is missing a name"] := by
    have fits : cells (bullet ++ ' ' :: (statement missingName).toList) ≤ consoleWidth :=
      Nat.le_trans (cells_le _) (by decide)
    rw [shown_text (isTagName_of_kind (.inl rfl)), shown_eq_self isUnmarked_missingName,
      itemLines_of_fits (by decide) (by decide) fits]
    decide +kernel
  have problems : problemLines namelessReport =
      ["", "✗ Failures:", "  •  input #0: Model declaration is missing a name"] := by
    simp [problemLines, namelessReport, listLines, told]
  have progress := progress_nameless
  rw [trialProgress] at progress
  rw [printed_execute ready_nameless code_nameless, aboveProblems, progress, problems]
  change [""] ++ overviewLines namelessReport none trial ++ _ = _
  rw [overview]
  rfl

/-- The diagnostic is not listed in full, wherever its lines are broken: no line has a bracket. -/
theorem not_listsInFull_nameless :
    (outcome (execute ⟨[], .timeout⟩ trial) (tracesOf namelessDocument)).1 = .ok 1 ∧
      (trialProgress namelessDocument [.object []]).report.diagnostics ≠ [] ∧
      ¬ListsInFull "✗ Failures:"
        ((trialProgress namelessDocument [.object []]).report.diagnostics.map Diagnostic.text)
        (outcome (execute ⟨[], .timeout⟩ trial) (tracesOf namelessDocument)).2.printed := by
  refine ⟨code_nameless, by simp [progress_nameless, namelessReport], ?_⟩
  rintro ⟨above, lines, below, printed, full⟩
  rw [printed_nameless] at printed
  have bare : ∀ line ∈ lines, '[' ∉ line.toList := by
    have everywhere : ∀ line ∈ above ++ "✗ Failures:" :: (lines ++ below), '[' ∉ line.toList := by
      rw [← printed]
      decide +kernel
    exact fun line inside => everywhere line (by simp [inside])
  have missing : '[' ∉ lines.flatMap fun line => seen line.toList := by
    intro inside
    obtain ⟨line, listed, present⟩ := List.mem_flatMap.mp inside
    exact bare line listed (List.mem_of_mem_filter present)
  have bracket : isSeen '[' = true := by decide +kernel
  rw [full, progress_nameless] at missing
  exact missing (by simp [namelessReport, Diagnostic.text, seen, bracket])

end Command

end SqlScaffold.CommandLine
