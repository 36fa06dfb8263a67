import SqlScaffold.Proofs.CommandLine.Step
import SqlScaffold.Proofs.Console.Table
import SqlScaffold.Proofs.Number.Letters

/-!
From a run to an exit code. What the command shows of a report changes neither the files nor the
records, and the command answers exactly if all that it shows can be printed.
-/

namespace SqlScaffold.CommandLine

open Console Emit Scan

variable {report : Report} {directory : Option String} {arguments : Arguments} {traces : Traces}

structure OnlyPrints (before after : Traces) : Prop where
  tree : after.tree = before.tree
  logs : after.logs = before.logs
  printed : before.printed <+: after.printed

instance : Std.Refl OnlyPrints := ⟨fun _ => ⟨rfl, rfl, List.prefix_rfl⟩⟩

instance : IsTrans Traces OnlyPrints where
  trans _ _ _ earlier later := {
    tree := later.tree.trans earlier.tree
    logs := later.logs.trans earlier.logs
    printed := earlier.printed.trans later.printed }

theorem keeps_printLines (lines : List String) : Keeps OnlyPrints (printLines lines) :=
  fun traces => ⟨rfl, rfl, List.prefix_append traces.printed lines⟩

theorem keeps_print (marked : String) : Keeps OnlyPrints (print marked) := by
  unfold print
  split
  · exact keeps_printLines _
  · exact keeps_throw _

theorem keeps_printTable (table : Table) : Keeps OnlyPrints (printTable table) := by
  unfold printTable
  split
  · exact keeps_printLines _
  · exact keeps_throw _

theorem answers_printTable_iff (table : Table) (traces : Traces) :
    Answers (printTable table) traces ↔ table.Drawable := by
  rw [← table.lines_ok_iff]
  unfold printTable
  split
  · next lines drawn => simp [Answers, drawn]
  · next error failed => simp [Answers, failed]

section Lists

def itemText (color item : String) : String := "  [" ++ color ++ "]•[/" ++ color ++ "] " ++ item

def titleText (color heading : String) : String :=
  "\n[" ++ color ++ "]" ++ heading ++ "[/" ++ color ++ "]"

theorem keeps_printList (color heading : String) (items : List String) :
    Keeps OnlyPrints (printList color heading items) := by
  unfold printList
  split
  · exact keeps_pure ()
  · exact (keeps_print _).bind fun _ => keeps_forM (fun item => keeps_print _) items

theorem answers_printList_iff {color heading : String}
    (headed : Printable (titleText color heading)) (items : List String) (traces : Traces) :
    Answers (printList color heading items) traces ↔
      ∀ item ∈ items, Printable (itemText color item) := by
  cases items with
  | nil => simp [printList]
  | cons item rest =>
    have each (traces : Traces) := answers_forM_iff
      (fun item => answers_print_iff (itemText color item)) (item :: rest) traces
    have whole : Answers (printList color heading (item :: rest)) traces ↔ _ :=
      (answers_then_iff each).trans (and_congr_left' (answers_print_iff _ _))
    rw [whole]
    exact and_iff_right headed

end Lists

def onlyIf (condition : Bool) (step : Step Unit) : Step Unit :=
  if condition then step else pure ()

theorem answers_onlyIf_iff (condition : Bool) (step : Step Unit) (traces : Traces) :
    Answers (onlyIf condition step) traces ↔ (condition = true → Answers step traces) := by
  cases condition with
  | false => simp [onlyIf]
  | true => simp [onlyIf]

theorem keeps_onlyIf (condition : Bool) {step : Step Unit} (keeps : Keeps OnlyPrints step) :
    Keeps OnlyPrints (onlyIf condition step) := by
  cases condition with
  | false => exact keeps_pure ()
  | true => exact keeps

theorem drawable_summaryTable (report : Report) : (summaryTable report).Drawable := by
  refine Table.drawable_of_plain fun row inside => ?_
  have labels : ∀ label ∈ ["Models Scanned", "Artifacts Emitted", "Diagnostics", "Warnings"],
      '[' ∉ label.toList := by decide
  obtain ⟨label, counted⟩ := List.of_mem_zip inside
  obtain ⟨count, _, same⟩ := List.mem_map.mp counted
  refine ⟨labels _ label, ?_⟩
  rw [← same]
  exact Number.not_mem_toString (by decide) (by decide) count.2

def present (report : Report) (directory : Option String) (arguments : Arguments) : Step Unit := do
  onlyIf (arguments.dryRun || directory.isSome)
    (printTable (artifactTable report directory arguments.dryRun))
  onlyIf arguments.verbose (do
    printLines [""]
    printTable (summaryTable report))
  printList "yellow" "⚠️  Warnings:" report.warnings
  printList "red" "✗ Failures:" (report.diagnostics.map Diagnostic.text)

structure Shows (report : Report) (directory : Option String) (arguments : Arguments) : Prop where
  table : (arguments.dryRun || directory.isSome) = true →
    (artifactTable report directory arguments.dryRun).Drawable
  warnings : ∀ warning ∈ report.warnings, Printable (itemText "yellow" warning)
  diagnostics : ∀ diagnostic ∈ report.diagnostics, Printable (itemText "red" diagnostic.text)

theorem keeps_present (report : Report) (directory : Option String) (arguments : Arguments) :
    Keeps OnlyPrints (present report directory arguments) := by
  have counts : Keeps OnlyPrints (printLines [""] >>= fun _ => printTable (summaryTable report)) :=
    (keeps_printLines _).bind fun _ => keeps_printTable _
  refine (keeps_onlyIf _ (keeps_printTable _)).bind fun _ => ?_
  refine (keeps_onlyIf _ counts).bind fun _ => ?_
  exact (keeps_printList _ _ _).bind fun _ => keeps_printList _ _ _

theorem printable_warnings : Printable (titleText "yellow" "⚠️  Warnings:") := by decide +kernel

theorem printable_failures : Printable (titleText "red" "✗ Failures:") := by decide +kernel

theorem answers_present_iff (report : Report) (directory : Option String) (arguments : Arguments)
    (traces : Traces) :
    Answers (present report directory arguments) traces ↔ Shows report directory arguments := by
  have counts (traces : Traces) : Answers (onlyIf arguments.verbose (printLines [""] >>= fun _ =>
      printTable (summaryTable report))) traces := by
    refine (answers_onlyIf_iff _ _ _).mpr fun _ => ?_
    refine (answers_then_iff (answers_printTable_iff _)).mpr ⟨⟨(), rfl⟩, ?_⟩
    exact drawable_summaryTable report
  have failures := answers_printList_iff printable_failures (report.diagnostics.map Diagnostic.text)
  have lists (traces : Traces) := answers_then_iff failures
    |>.trans (and_congr_left' (answers_printList_iff printable_warnings report.warnings traces))
  have tables (traces : Traces) :=
    (answers_then_iff lists).trans (and_iff_right (counts traces))
  refine (answers_then_iff tables).trans ?_
  rw [answers_onlyIf_iff, answers_printTable_iff]
  simp only [List.forall_mem_map]
  constructor
  · rintro ⟨table, warnings, diagnostics⟩
    exact ⟨table, warnings, diagnostics⟩
  · rintro ⟨table, warnings, diagnostics⟩
    exact ⟨table, warnings, diagnostics⟩

def exitCodeOf (report : Report) : Nat := if report.isSuccess then exitOk else exitDiagnostics

theorem exitCodeOf_eq (report : Report) :
    exitCodeOf report = if report.diagnostics = [] then 0 else 1 := by
  unfold exitCodeOf Report.isSuccess
  cases report.diagnostics with
  | nil => rfl
  | cons first rest => rfl

/-- A command runs its generator, shows the report and answers with its exit code. -/
theorem generate_eq (generator : Generator) (inputs : List Input) (arguments : Arguments) :
    generate generator inputs arguments =
      let directory := CommandLine.given generator.settings.outputDirectory
      runGenerator generator inputs (destinationOf directory arguments.dryRun) >>= fun report =>
        present report directory arguments >>= fun _ => pure (exitCodeOf report) := by
  unfold generate present onlyIf exitCodeOf
  dsimp only
  congr 1
  funext report
  split
  · split
    · simp only [bind_assoc]
    · simp only [bind_assoc, pure_bind]
  · split
    · simp only [bind_assoc, pure_bind]
    · simp only [bind_assoc, pure_bind]

section Running

variable {generator : Generator} {inputs : List Input}

def runFor (generator : Generator) (inputs : List Input) (arguments : Arguments)
    (traces : Traces) : Logged (Progress Kept) :=
  let directory := CommandLine.given generator.settings.outputDirectory
  Run.run generator (destinationOf directory arguments.dryRun).emitter inputs
    { tree := traces.tree, printed := traces.printed }

def Traces.ran (traces : Traces) (progress : Logged (Progress Kept)) : Traces where
  tree := progress.value.state.tree
  printed := progress.value.state.printed
  logs := traces.logs ++ progress.logs

theorem outcome_runGenerator (generator : Generator) (inputs : List Input) (arguments : Arguments)
    (traces : Traces) :
    outcome (runGenerator generator inputs (destinationOf
        (CommandLine.given generator.settings.outputDirectory) arguments.dryRun)) traces =
      (match (runFor generator inputs arguments traces).value.failure with
        | some failure => .error (.run failure)
        | none => .ok (runFor generator inputs arguments traces).value.report,
        traces.ran (runFor generator inputs arguments traces)) := by
  rw [runGenerator, outcome_bind_of_ok (outcome_get traces)]
  dsimp only
  rw [outcome_bind_of_ok (outcome_addLogs _ _), outcome_bind_of_ok (outcome_modify _ _)]
  split
  · next failure failed => simp [runFor, failed, Traces.ran, Traces.logged]
  · next returned => simp [runFor, returned, Traces.ran, Traces.logged]

theorem generate_prints (generator : Generator) (inputs : List Input) (arguments : Arguments)
    (traces : Traces) :
    OnlyPrints (traces.ran (runFor generator inputs arguments traces))
      (outcome (generate generator inputs arguments) traces).2 := by
  have ran := outcome_runGenerator generator inputs arguments traces
  rw [generate_eq]
  dsimp only
  split at ran
  · rw [outcome_bind_of_error ran]
    exact Std.Refl.refl _
  · rw [outcome_bind_of_ok ran]
    exact (keeps_present _ _ _).bind (fun _ => keeps_pure _) _

theorem generate_answers_iff :
    Answers (generate generator inputs arguments) traces ↔
      (runFor generator inputs arguments traces).value.failure = none ∧
        Shows (runFor generator inputs arguments traces).value.report
          (CommandLine.given generator.settings.outputDirectory) arguments := by
  have ran := outcome_runGenerator generator inputs arguments traces
  rw [generate_eq, Answers]
  dsimp only
  split at ran
  · next failure failed => simp [outcome_bind_of_error ran, failed]
  · next returned =>
    rw [outcome_bind_of_ok ran]
    simp only [returned, true_and]
    refine (answers_then_iff fun _ => iff_true_intro (answers_pure _ _)).trans ?_
    rw [answers_present_iff, and_true]

theorem code_of_generate {code : Nat}
    (answered : (outcome (generate generator inputs arguments) traces).1 = .ok code) :
    code = exitCodeOf (runFor generator inputs arguments traces).value.report := by
  have ran := outcome_runGenerator generator inputs arguments traces
  rw [generate_eq] at answered
  dsimp only at answered
  split at ran
  · rw [outcome_bind_of_error ran] at answered
    cases answered
  · rw [outcome_bind_of_ok ran] at answered
    obtain ⟨_, _, _, same⟩ := outcome_bind_eq_ok_iff.mp answered
    cases same
    rfl

end Running

end SqlScaffold.CommandLine
