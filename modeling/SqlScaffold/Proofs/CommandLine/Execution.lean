import SqlScaffold.Logging
import SqlScaffold.Proofs.CommandLine.Generating
import SqlScaffold.Proofs.CommandLine.Preparing
import SqlScaffold.Proofs.Load.Reporting
import SqlScaffold.Proofs.Emit.Destination
import SqlScaffold.Proofs.Run.Declarations
import SqlScaffold.Proofs.Run.Objects

/-!
Commands as a whole. A command that cannot get everything for a run withdraws: it changes no file and
shows nothing but notices. One that gets to a run answers with the exit code of its report, if all
that it shows can be printed.
-/

namespace SqlScaffold.CommandLine

open Console Emit Files Load Scan Text

variable {surroundings : Surroundings} {arguments : Arguments} {before after : Traces}

theorem levelOf?_of_levelOf {value : String} {level : Level} (chosen : levelOf value = .ok level) :
    Logging.levelOf? value = some level := by
  have named : ∀ known ∈ chosenLevels, Logging.levelNames.lookup known.name = some known := by
    decide
  unfold levelOf at chosen
  dsimp only at chosen
  split at chosen
  · next found =>
    cases chosen
    have same : level.name = upper value := by simpa using List.find?_some found
    rw [Logging.levelOf?, ← same]
    exact named _ (List.mem_of_find?_eq_some found)
  · cases chosen

/-- Logging can be set up for every level that a command accepts. -/
theorem configure_of_levelOf {value : String} {level : Level} (chosen : levelOf value = .ok level)
    (handler : Logging.Handler) :
    Logging.configure (.text value) handler = .ok ⟨level, handler⟩ := by
  simp [Logging.configure, levelOf?_of_levelOf chosen]

theorem outcome_execute_of_level (leveled : arguments.level ≠ none) :
    outcome (execute surroundings arguments) before =
      outcome (prepare surroundings arguments >>= fun prepared =>
        match prepared with
        | .error refusal => print refusal.text >>= fun _ => pure exitUsage
        | .ok (generator, inputs) => generate generator inputs arguments) before := by
  have given : ¬arguments.level.isNone = true := by simpa using leveled
  unfold execute
  exact congrArg (outcome · before) (if_neg given)

theorem outcome_execute_unleveled (unleveled : arguments.level = none) :
    outcome (execute surroundings arguments) before = (.error .noLevel, before) := by
  rw [execute, if_pos (by simp [unleveled])]
  exact outcome_bind_of_error (outcome_throw _ _)

/-- A command that gets to no run leaves only what preparations leave, and perhaps the notice why it
does not. -/
structure Withdraws (surroundings : Surroundings) (arguments : Arguments) (before : Traces) : Prop
    where
  unprepared : ∀ generator inputs,
    (outcome (prepare surroundings arguments) before).1 ≠ .ok (.ok (generator, inputs))
  code : ∀ code, (outcome (execute surroundings arguments) before).1 = .ok code → code = exitUsage
  tree : (outcome (execute surroundings arguments) before).2.tree = before.tree
  leaves : ∃ prepared notice, Prepares (adviceFor arguments before.tree) before prepared ∧
    (outcome (execute surroundings arguments) before).2 = prepared.shown notice ∧
      (notice = [] ∨ ∃ refusal, notice = shownLines refusal.text ∧
        (outcome (prepare surroundings arguments) before).1 = .ok (.error refusal))

theorem withdraws_of_ended {answer : Except Failure Nat} {prepared : Traces} {notice : List String}
    (unprepared : ∀ generator inputs,
      (outcome (prepare surroundings arguments) before).1 ≠ .ok (.ok (generator, inputs)))
    (preparing : Prepares (adviceFor arguments before.tree) before prepared)
    (ended : outcome (execute surroundings arguments) before = (answer, prepared.shown notice))
    (usage : ∀ code, answer = .ok code → code = exitUsage)
    (noticed : notice = [] ∨ ∃ refusal, notice = shownLines refusal.text ∧
      (outcome (prepare surroundings arguments) before).1 = .ok (.error refusal)) :
    Withdraws surroundings arguments before where
  unprepared := unprepared
  code := by simpa [ended] using usage
  tree := by
    rw [ended]
    exact preparing.tree
  leaves := ⟨prepared, notice, preparing, by rw [ended], noticed⟩

theorem withdraws_of_unprepared
    (unprepared : ∀ generator inputs,
      (outcome (prepare surroundings arguments) before).1 ≠ .ok (.ok (generator, inputs))) :
    Withdraws surroundings arguments before := by
  have silent (traces : Traces) : traces.shown [] = traces := by simp [Traces.shown]
  by_cases leveled : arguments.level = none
  · have ended : outcome (execute surroundings arguments) before =
        (.error .noLevel, before.shown []) := by
      rw [silent]
      exact outcome_execute_unleveled leveled
    exact withdraws_of_ended unprepared (.refl _ before) ended (by simp) (.inl rfl)
  · have preparing := prepare_prepares surroundings arguments before
    rcases prepared : outcome (prepare surroundings arguments) before with ⟨answer, after⟩
    rw [prepared] at preparing
    rcases answer with failure | refusal | ⟨generator, inputs⟩
    · have ended : outcome (execute surroundings arguments) before =
          (.error failure, after.shown []) := by
        rw [silent, outcome_execute_of_level leveled, outcome_bind_of_error prepared]
      exact withdraws_of_ended unprepared preparing ended (by simp) (.inl rfl)
    · have ended : outcome (execute surroundings arguments) before =
          outcome (print refusal.text >>= fun _ => pure exitUsage) after := by
        rw [outcome_execute_of_level leveled, outcome_bind_of_ok prepared]
      by_cases printable : Printable refusal.text
      · rw [outcome_bind_of_ok (outcome_print printable after)] at ended
        refine withdraws_of_ended unprepared preparing ended ?_
          (.inr ⟨refusal, rfl, by rw [prepared]⟩)
        intro code same
        cases same
        rfl
      · obtain ⟨error, failed⟩ := outcome_print_failed printable after
        rw [outcome_bind_of_error failed, ← silent after] at ended
        exact withdraws_of_ended unprepared preparing ended (by simp) (.inl rfl)
    · exact absurd (congrArg Prod.fst prepared) (unprepared generator inputs)

/-- Something that a command needs for a run cannot be had: settings whose advice can be printed, an
input at all, the inputs of one of its sources, or a generator. -/
inductive Hindered (surroundings : Surroundings) (arguments : Arguments) (tree : FileTree) : Prop
  | settings {failure : SettingsFailure} :
      settingsFor arguments tree = .error failure → Hindered surroundings arguments tree
  | advice {settings : Settings} {advice : Advice} :
      settingsFor arguments tree = .ok settings → advice ∈ settings.draft.advice →
      ¬Printable (adviceText advice) → Hindered surroundings arguments tree
  | missing : isInputGiven arguments = false → Hindered surroundings arguments tree
  | source {source : Loaded (List Input)} {failure : LoadFailure} :
      source ∈ sourcesOf surroundings arguments tree → source.value = .error failure →
      Hindered surroundings arguments tree
  | generator {settings : Settings} {error : UnknownStorage} :
      settingsFor arguments tree = .ok settings → Generator.make settings .shipped = .error error →
      Hindered surroundings arguments tree

theorem not_hindered_of_ready {settings : Settings} {inputs : List Input} {generator : Generator}
    (ready : Ready surroundings arguments before.tree settings inputs generator)
    (printable : ∀ advice ∈ settings.draft.advice, Printable (adviceText advice)) :
    ¬Hindered surroundings arguments before.tree := by
  intro hindered
  cases hindered with
  | settings unsettled => cases ready.settled.symm.trans unsettled
  | advice settled given unprintable =>
    cases ready.settled.symm.trans settled
    exact unprintable (printable _ given)
  | missing missing => cases ready.given.symm.trans missing
  | source named failed =>
    have loaded := ready.loaded
    rw [loadAll_eq_join, join_eq_ok_iff] at loaded
    obtain ⟨parts, brought, _⟩ := loaded
    have member := List.mem_map_of_mem (f := Logged.value) named
    rw [brought, failed] at member
    simp at member
  | generator settled unmade =>
    cases ready.settled.symm.trans settled
    cases ready.made.symm.trans unmade

/-- Every command gets to a run or is hindered. -/
theorem hindered_iff :
    Hindered surroundings arguments before.tree ↔ ∀ generator inputs,
      (outcome (prepare surroundings arguments) before).1 ≠ .ok (.ok (generator, inputs)) := by
  constructor
  · intro hindered generator inputs prepared
    obtain ⟨settings, ready, printable⟩ := prepare_eq_ok_iff.mp prepared
    exact not_hindered_of_ready ready printable hindered
  · intro unprepared
    cases settled : settingsFor arguments before.tree with
    | error failure => exact .settings settled
    | ok settings =>
      by_cases printable : ∀ advice ∈ settings.draft.advice, Printable (adviceText advice)
      · cases given : isInputGiven arguments with
        | false => exact .missing given
        | true =>
          cases loaded : (loadAll surroundings arguments before.tree).value with
          | error failure =>
            rw [loadAll_eq_join] at loaded
            obtain ⟨source, named, failed⟩ := failed_of_join loaded
            exact .source named failed
          | ok inputs =>
            cases made : Generator.make settings .shipped with
            | error error => exact .generator settled made
            | ok generator =>
              have ready : Ready surroundings arguments before.tree settings inputs generator :=
                ⟨settled, given, loaded, made⟩
              exact absurd (prepare_eq_ok_iff.mpr ⟨settings, ready, printable⟩)
                (unprepared generator inputs)
      · push Not at printable
        obtain ⟨advice, given, unprintable⟩ := printable
        exact .advice settled given unprintable

theorem code_ne_usage_of_prepared {generator : Generator} {inputs : List Input}
    (prepared : (outcome (prepare surroundings arguments) before).1 = .ok (.ok (generator, inputs))) :
    (outcome (execute surroundings arguments) before).1 ≠ .ok exitUsage := by
  intro answered
  by_cases leveled : arguments.level = none
  · simp [outcome_execute_unleveled leveled] at answered
  · have reached : outcome (prepare surroundings arguments) before =
        (.ok (.ok (generator, inputs)), _) := Prod.ext prepared rfl
    rw [outcome_execute_of_level leveled, outcome_bind_of_ok reached] at answered
    have code := code_of_generate answered
    unfold exitCodeOf at code
    split at code <;> cases code

section Trials

def tracesOf (document : String) : Traces := { tree := .ofFiles [("m.json", .text document)] }

def trial : Arguments := { files := ["m.json"], dryRun := true }

theorem ready_trial {text : String} {document : Value} {declarations : List Value}
    (opened : (tracesOf text).tree.read (.ofText "m.json") = .ok (.text text))
    (decoded : (Content.text text).readText = .ok text) (parsed : Json.read text = .ok document)
    (listed : declarationsOf document (Path.ofText "m.json").text = .ok declarations) :
    Ready ⟨[], .timeout⟩ trial (tracesOf text).tree {} (declarations.map .declaration)
      .standard where
  settled := rfl
  given := rfl
  loaded := by
    have brought := fromFile_eq_ok_iff.mpr ⟨_, text, document, opened, decoded, parsed, listed⟩
    rw [loadAll_eq_join, join_eq_ok_iff]
    refine ⟨[declarations.map .declaration], ?_, by simp⟩
    simp [sourcesOf, trial, asInputs, Logged.map, Except.map, brought, CommandLine.given]
  made := rfl

/-- Everything that a command needs for a run is there, and no half of a pair of codes stands in a
document that it opens or that answers its request. -/
structure ReadyWhole (surroundings : Surroundings) (arguments : Arguments) (tree : FileTree)
    (settings : Settings) (inputs : List Input) (generator : Generator) : Prop
    extends Ready surroundings arguments tree settings inputs generator where
  opened : ∀ name ∈ arguments.files ++ arguments.config.toList, ∀ content text,
    tree.read (.ofText name) = .ok content → content.readText = .ok text → Json.IsWhole text
  answer : (CommandLine.given arguments.url).isSome = true → ∀ code body,
    surroundings.response = .answer code body → Json.IsWhole body

theorem readyWhole_trial {text : String} {document : Value} {declarations : List Value}
    (opened : (tracesOf text).tree.read (.ofText "m.json") = .ok (.text text))
    (decoded : (Content.text text).readText = .ok text)
    (reads : ∀ standIn, Json.readWith standIn text = .ok document)
    (listed : declarationsOf document (Path.ofText "m.json").text = .ok declarations) :
    ReadyWhole ⟨[], .timeout⟩ trial (tracesOf text).tree {} (declarations.map .declaration)
      .standard where
  toReady := ready_trial opened decoded (reads _) listed
  opened := by
    intro name named content found held read
    obtain rfl : name = "m.json" := by simpa [trial] using named
    cases opened.symm.trans held
    cases decoded.symm.trans read
    exact Json.isWhole_of_readWith reads
  answer requested := by simp [trial, CommandLine.given] at requested

def keyedDocument : String :=
  "\x7b\"name\": \"Order\", \"fields\": [\x7b\"name\": \"id\", \"type\": \"int\"\x7d]\x7d"

def keyedDeclaration : Value :=
  .object [("name", .text "Order"),
    ("fields", .list [.object [("name", .text "id"), ("type", .text "int")]])]

theorem ready_keyed : ReadyWhole ⟨[], .timeout⟩ trial (tracesOf keyedDocument).tree {}
    ([keyedDeclaration].map .declaration) .standard := by
  have reads (standIn : Char) : Json.readWith standIn keyedDocument = .ok keyedDeclaration := by
    simp only [Json.readWith, keyedDocument, String.reduceToList]
    rfl
  exact readyWhole_trial (by decide +kernel) (by decide +kernel) reads rfl

end Trials

/-- Loading is all or nothing. If a command answers with the code for usage, or if settings, any of
its sources or a generator cannot be had, it never gets to a run: the files are as before, and what
it shows is advice on its settings and why it does not run. -/
theorem execute_allOrNothing
    (failed : (outcome (execute surroundings arguments) before).1 = .ok exitUsage ∨
      Hindered surroundings arguments before.tree) :
    Withdraws surroundings arguments before := by
  refine withdraws_of_unprepared ?_
  rcases failed with usage | hindered
  · exact fun generator inputs prepared => code_ne_usage_of_prepared prepared usage
  · exact hindered_iff.mp hindered

def halfMissing : Arguments := { files := ["m.json", "n.json"], output := some "out" }

/-- What the first file declares is not generated. -/
theorem execute_allOrNothing_missing :
    (fromFile (tracesOf keyedDocument).tree (.ofText "m.json")).value.toOption.isSome = true ∧
      Hindered ⟨[], .timeout⟩ halfMissing (tracesOf keyedDocument).tree ∧
      Withdraws ⟨[], .timeout⟩ halfMissing (tracesOf keyedDocument) := by
  have missing : (asInputs Input.declaration
      (fromFile (tracesOf keyedDocument).tree (.ofText "n.json"))).value =
        .error (.load (.fileNotFound (.ofText "n.json"))) := by
    have held : (tracesOf keyedDocument).tree.holds (.ofText "n.json") = .ok false := by
      decide +kernel
    simp [asInputs, Logged.map, Except.map, fromFile, held, Logged.silent, refused]
  have hindered : Hindered ⟨[], .timeout⟩ halfMissing (tracesOf keyedDocument).tree :=
    .source (by simp [sourcesOf, halfMissing]) missing
  exact ⟨by decide +kernel, hindered, execute_allOrNothing (.inr hindered)⟩

section Completing

variable {settings : Settings} {inputs : List Input} {generator : Generator}

def startOf (settings : Settings) (before : Traces) : Kept where
  tree := before.tree
  printed := before.printed ++ settings.draft.advice.flatMap adviceLines ++ [""]

def progressOf (settings : Settings) (generator : Generator) (inputs : List Input)
    (arguments : Arguments) (before : Traces) : Progress Kept :=
  (Run.run generator (destinationOf (CommandLine.given settings.outputDirectory)
    arguments.dryRun).emitter inputs (startOf settings before)).value

theorem runFor_readied (ready : Ready surroundings arguments before.tree settings inputs generator) :
    (runFor generator inputs arguments
      (before.readied surroundings arguments settings inputs)).value =
        progressOf settings generator inputs arguments before := by
  obtain ⟨rfl, _⟩ := Generator.make_eq_ok ready.made
  rfl

theorem outcome_execute_of_ready
    (ready : Ready surroundings arguments before.tree settings inputs generator)
    (leveled : arguments.level ≠ none)
    (printable : ∀ advice ∈ settings.draft.advice, Printable (adviceText advice)) :
    outcome (execute surroundings arguments) before =
      outcome (generate generator inputs arguments)
        (before.readied surroundings arguments settings inputs) := by
  rw [outcome_execute_of_level leveled, outcome_bind_of_ok (outcome_prepare ready printable)]

/-- A command that has everything for a run answers exactly if its level is one, its advice can be
printed, the run returns and its report can be shown. -/
theorem answers_execute_iff
    (ready : Ready surroundings arguments before.tree settings inputs generator) :
    Answers (execute surroundings arguments) before ↔
      arguments.level ≠ none ∧
        (∀ advice ∈ settings.draft.advice, Printable (adviceText advice)) ∧
        (progressOf settings generator inputs arguments before).failure = none ∧
        Shows (progressOf settings generator inputs arguments before).report
          (CommandLine.given settings.outputDirectory) arguments := by
  by_cases leveled : arguments.level = none
  · simp [Answers, outcome_execute_unleveled leveled, leveled]
  · by_cases printable : ∀ advice ∈ settings.draft.advice, Printable (adviceText advice)
    · have answers : Answers (execute surroundings arguments) before ↔
          Answers (generate generator inputs arguments)
            (before.readied surroundings arguments settings inputs) := by
        rw [Answers, Answers, outcome_execute_of_ready ready leveled printable]
      obtain ⟨same, _⟩ := Generator.make_eq_ok ready.made
      rw [answers, generate_answers_iff, runFor_readied ready, same]
      constructor
      · rintro ⟨returned, shows⟩
        exact ⟨leveled, printable, returned, shows⟩
      · rintro ⟨_, _, returned, shows⟩
        exact ⟨returned, shows⟩
    · obtain ⟨failure, after, failed⟩ :=
        outcome_prepare_of_unprintable surroundings ready.settled printable
      refine iff_of_false ?_ fun answers => printable answers.2.1
      rw [Answers, outcome_execute_of_level leveled, outcome_bind_of_error failed]
      simp

theorem code_of_execute {code : Nat}
    (ready : Ready surroundings arguments before.tree settings inputs generator)
    (answered : (outcome (execute surroundings arguments) before).1 = .ok code) :
    code = exitCodeOf (progressOf settings generator inputs arguments before).report ∧
      (outcome (execute surroundings arguments) before).2.tree =
        (progressOf settings generator inputs arguments before).state.tree := by
  obtain ⟨leveled, printable, _, _⟩ := (answers_execute_iff ready).mp ⟨code, answered⟩
  rw [outcome_execute_of_ready ready leveled printable] at answered ⊢
  have code := code_of_generate answered
  have tree := (generate_prints generator inputs arguments
    (before.readied surroundings arguments settings inputs)).tree
  rw [Traces.ran, runFor_readied ready] at tree
  rw [runFor_readied ready] at code
  exact ⟨code, tree⟩

end Completing

/-- A command over declarations that has everything for a run answers exactly if it has a level, its
advice can be printed, the indentation counts where there is a model, the destination takes every unit
and the report can be shown. Its exit code then tells whether the report has diagnostics, and the
report says of every declaration what became of it. Nothing is said of documents with half of a pair
of codes: a text that holds one can be read, but neither printed nor written to a file. -/
theorem execute_answers_iff {settings : Settings} {generator : Generator} {values : List Value}
    (ready : ReadyWhole surroundings arguments before.tree settings (values.map .declaration)
      generator) :
    let inputs := values.map Input.declaration
    let directory := CommandLine.given settings.outputDirectory
    let destination := destinationOf directory arguments.dryRun
    let progress := progressOf settings generator inputs arguments before
    (Answers (execute surroundings arguments) before ↔
      arguments.level ≠ none ∧
        (∀ advice ∈ settings.draft.advice, Printable (adviceText advice)) ∧
        (Run.scannedModels generator inputs = [] ∨ ∃ width, settings.indentWidth = .ok width) ∧
        (∀ call ∈ calls destination.emitter (startOf settings before)
          (Run.generatedUnits generator inputs), destination.Takes call.1 call.2) ∧
        Shows progress.report directory arguments) ∧
      ∀ code, (outcome (execute surroundings arguments) before).1 = .ok code →
        code = (if progress.report.diagnostics = [] then 0 else 1) ∧
          (∀ index input, inputs[index]? = some input →
            Run.Records generator progress.report index input) ∧
          (outcome (execute surroundings arguments) before).2.tree = progress.state.tree := by
  obtain ⟨rfl, shipped⟩ := Generator.make_eq_ok ready.made
  intro inputs directory destination progress
  have returned_iff : progress.failure = none ↔
      (Run.scannedModels generator inputs = [] ∨
        ∃ width, generator.settings.indentWidth = .ok width) ∧
          ∀ call ∈ calls destination.emitter (startOf generator.settings before)
            (Run.generatedUnits generator inputs), destination.Takes call.1 call.2 := by
    simp only [← destination.answered_iff]
    exact Run.declarations_return_iff shipped values (startOf generator.settings before)
  have answers := answers_execute_iff ready.toReady
  refine ⟨?_, fun code answered => ?_⟩
  · rw [answers, returned_iff, and_assoc]
  · obtain ⟨_, _, returned, _⟩ := answers.mp ⟨code, answered⟩
    obtain ⟨deliveries, summary⟩ := Run.run_summary returned
    obtain ⟨rfl, tree⟩ := code_of_execute ready.toReady answered
    exact ⟨exitCodeOf_eq _, fun index input placed => Run.records_of_summary summary placed, tree⟩

theorem shows_of_plain {report : Report} {directory : Option String}
    (plain : ∀ row ∈ (artifactTable report directory arguments.dryRun).rows,
      '[' ∉ row.1.toList ∧ '[' ∉ row.2.toList)
    (warnings : report.warnings = []) (diagnostics : report.diagnostics = []) :
    Shows report directory arguments where
  table _ := Table.drawable_of_plain plain
  warnings := by simp [warnings]
  diagnostics := by simp [diagnostics]

def trialProgress (text : String) (declarations : List Value) : Progress Kept :=
  progressOf {} .standard (declarations.map .declaration) trial (tracesOf text)

theorem report_keyed :
    let report := (trialProgress keyedDocument [keyedDeclaration]).report
    (artifactTable report none true).rows =
        [("OrderDynamicSqlSupport", "OrderDynamicSqlSupport.java"),
          ("OrderMyBatisDSLMapper", "OrderMyBatisDSLMapper.java")] ∧
      report.warnings = [] ∧ report.diagnostics = [] := by
  obtain ⟨support, mapper, made⟩ := Generator.standard_ok
    ⟨"", "Order", [⟨"id", "int"⟩], some "", by decide, List.nodup_singleton _⟩
    (.of_named (by decide))
  have stored : (trialProgress keyedDocument [keyedDeclaration]).report =
      { units := [⟨"", "OrderDynamicSqlSupport", support⟩, ⟨"", "OrderMyBatisDSLMapper", mapper⟩]
        scanned := 1 } := by
    rw [trialProgress, progressOf, Run.value_run, List.map_singleton,
      Run.value_runFrom_generated _ _ _ rfl made]
    rfl
  have listed : ["OrderDynamicSqlSupport", "OrderMyBatisDSLMapper"].map (fun name =>
        (qualify "" name, (Directory.pathFor { root := Path.ofText "." } "" name).text)) =
      [("OrderDynamicSqlSupport", "OrderDynamicSqlSupport.java"),
        ("OrderMyBatisDSLMapper", "OrderMyBatisDSLMapper.java")] := by
    decide +kernel
  rw [stored]
  exact ⟨listed, rfl, rfl⟩

/-- A trial of a model with a key lists its two units and ends with 0. -/
theorem execute_answers_keyed :
    ReadyWhole ⟨[], .timeout⟩ trial (tracesOf keyedDocument).tree {}
        ([keyedDeclaration].map .declaration) .standard ∧
      (outcome (execute ⟨[], .timeout⟩ trial) (tracesOf keyedDocument)).1 = .ok 0 := by
  obtain ⟨rows, warnings, diagnostics⟩ := report_keyed
  have plain : ∀ row ∈ [("OrderDynamicSqlSupport", "OrderDynamicSqlSupport.java"),
      ("OrderMyBatisDSLMapper", "OrderMyBatisDSLMapper.java")],
      '[' ∉ row.1.toList ∧ '[' ∉ row.2.toList := by decide +kernel
  rw [← rows] at plain
  have shows : Shows (trialProgress keyedDocument [keyedDeclaration]).report none trial :=
    shows_of_plain plain warnings diagnostics
  refine ⟨ready_keyed, ?_⟩
  have facts := execute_answers_iff ready_keyed
  change _ ∧ _ at facts
  dsimp only at facts
  rw [← trialProgress] at facts
  obtain ⟨code, answered⟩ := facts.1.mpr ⟨by decide, by decide, .inr ⟨4, rfl⟩,
    fun _ _ => trivial, shows⟩
  have same := (facts.2 code answered).1
  rw [if_pos diagnostics] at same
  rw [answered, same]

def tagDocument : String := "\x7b\"name\": \"A[/]\"\x7d"

def tagDeclaration : Value := .object [("name", .text "A[/]")]

/-- Both units of such a model are generated, and the command ends without an exit code when it is to
list them. -/
theorem execute_answers_tag :
    ReadyWhole ⟨[], .timeout⟩ trial (tracesOf tagDocument).tree {}
        ([tagDeclaration].map .declaration) .standard ∧
      ∀ code, (outcome (execute ⟨[], .timeout⟩ trial) (tracesOf tagDocument)).1 ≠ .ok code := by
  have reads (standIn : Char) : Json.readWith standIn tagDocument = .ok tagDeclaration := by
    simp only [Json.readWith, tagDocument, String.reduceToList]
    rfl
  have ready : ReadyWhole ⟨[], .timeout⟩ trial (tracesOf tagDocument).tree {}
      ([tagDeclaration].map .declaration) .standard :=
    readyWhole_trial (by decide +kernel) (by decide +kernel) reads rfl
  refine ⟨ready, fun code answered => ?_⟩
  have answers := (answers_execute_iff ready.toReady).mp ⟨code, answered⟩
  rw [← trialProgress] at answers
  obtain ⟨_, _, _, shows⟩ := answers
  obtain ⟨firsts, _, drawn⟩ := shows.table rfl
  have listed : "A[/]DynamicSqlSupport" ∈
      (artifactTable (trialProgress tagDocument [tagDeclaration]).report none true).rows.map
        Prod.fst := by
    obtain ⟨_, _, made⟩ := Generator.fieldless_ok "" "A[/]" (by decide)
    rw [trialProgress, progressOf, Run.value_run, List.map_singleton,
      Run.value_runFrom_generated _ _ _ rfl made]
    exact List.mem_cons_self
  obtain ⟨text, read⟩ := Outcome.ok_of_mapM_ok drawn.left _ listed
  have unread : (StyledText.read "A[/]DynamicSqlSupport").toOption = none := by decide +kernel
  rw [read] at unread
  cases unread

end SqlScaffold.CommandLine
