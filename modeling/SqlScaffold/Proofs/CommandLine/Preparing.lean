import SqlScaffold.Proofs.CommandLine.Step

/-!
What comes before a run: settings, inputs and a generator. A command gets to a run exactly if all of
them can be had, and until then it leaves the files alone and prints nothing but notices.
-/

namespace SqlScaffold.CommandLine

open Console Files Load Scan

variable {surroundings : Surroundings} {arguments : Arguments} {before : Traces}

def settingsFor (arguments : Arguments) (tree : FileTree) : Except SettingsFailure Settings :=
  Settings.load tree (.object (overridesOf arguments)) arguments.config

def adviceFor (arguments : Arguments) (tree : FileTree) : List Advice :=
  match settingsFor arguments tree with
  | .ok settings => settings.draft.advice
  | .error _ => []

def adviceText (advice : Advice) : String := "[yellow]⚠️  Config:[/yellow] " ++ advice.message

def adviceLines (advice : Advice) : List String := shownLines (adviceText advice)

structure Ready (surroundings : Surroundings) (arguments : Arguments) (tree : FileTree)
    (settings : Settings) (inputs : List Input) (generator : Generator) : Prop where
  settled : settingsFor arguments tree = .ok settings
  given : isInputGiven arguments = true
  loaded : (loadAll surroundings arguments tree).value = .ok inputs
  made : Generator.make settings .shipped = .ok generator

section Settling

def tellAdvice (settings : Settings) : Step Unit :=
  settings.draft.advice.forM fun advice => print (adviceText advice)

variable {settings : Settings}

theorem outcome_settle_of_settled (settled : settingsFor arguments before.tree = .ok settings) :
    outcome (settleSettings arguments) before =
      outcome (tellAdvice settings >>= fun _ => pure (.ok settings)) before := by
  rw [settingsFor] at settled
  rw [settleSettings, outcome_bind_of_ok (outcome_get before)]
  simp only [settled]
  rfl

theorem outcome_settle_of_unsettled {failure : SettingsFailure}
    (unsettled : settingsFor arguments before.tree = .error failure) :
    ∃ answer, outcome (settleSettings arguments) before = (answer, before) ∧
      ∀ settings, answer ≠ .ok (.ok settings) := by
  rw [settingsFor] at unsettled
  rw [settleSettings, outcome_bind_of_ok (outcome_get before)]
  cases failure with
  | _ => simp [unsettled]

theorem outcome_settle (settled : settingsFor arguments before.tree = .ok settings)
    (printable : ∀ advice ∈ settings.draft.advice, Printable (adviceText advice)) :
    outcome (settleSettings arguments) before =
      (.ok (.ok settings), before.shown (settings.draft.advice.flatMap adviceLines)) := by
  have told : outcome (tellAdvice settings) before =
      (.ok (), before.shown (settings.draft.advice.flatMap adviceLines)) :=
    outcome_forM_print printable before
  rw [outcome_settle_of_settled settled, outcome_bind_of_ok told]
  rfl

theorem outcome_settle_of_unprintable (settled : settingsFor arguments before.tree = .ok settings)
    (unprintable : ¬∀ advice ∈ settings.draft.advice, Printable (adviceText advice)) :
    ∃ told error, told <+: settings.draft.advice ∧ outcome (settleSettings arguments) before =
      (.error (.markup error), before.shown (told.flatMap adviceLines)) := by
  obtain ⟨told, error, above, failed⟩ := outcome_forM_print_failed unprintable before
  change outcome (tellAdvice settings) before = _ at failed
  refine ⟨told, error, above, ?_⟩
  rw [outcome_settle_of_settled settled, outcome_bind_of_error failed]
  rfl

theorem settle_shows (arguments : Arguments) (before : Traces) :
    ∃ told, told <+: adviceFor arguments before.tree ∧
      (outcome (settleSettings arguments) before).2 = before.shown (told.flatMap adviceLines) := by
  cases settled : settingsFor arguments before.tree with
  | error failure =>
    obtain ⟨answer, reached, _⟩ := outcome_settle_of_unsettled settled
    refine ⟨[], List.nil_prefix, ?_⟩
    rw [reached]
    simp [Traces.shown]
  | ok settings =>
    have advised : adviceFor arguments before.tree = settings.draft.advice := by
      rw [adviceFor, settled]
    rw [advised]
    by_cases printable : ∀ advice ∈ settings.draft.advice, Printable (adviceText advice)
    · exact ⟨_, List.prefix_rfl, by rw [outcome_settle settled printable]⟩
    · obtain ⟨told, error, above, failed⟩ := outcome_settle_of_unprintable settled printable
      exact ⟨told, above, by rw [failed]⟩

theorem settle_eq_ok_iff :
    (outcome (settleSettings arguments) before).1 = .ok (.ok settings) ↔
      settingsFor arguments before.tree = .ok settings ∧
        ∀ advice ∈ settings.draft.advice, Printable (adviceText advice) := by
  constructor
  · intro answered
    cases settled : settingsFor arguments before.tree with
    | error failure =>
      obtain ⟨answer, reached, unsettled⟩ := outcome_settle_of_unsettled settled
      rw [reached] at answered
      exact absurd answered (unsettled settings)
    | ok other =>
      rw [outcome_settle_of_settled settled] at answered
      obtain ⟨_, after, told, same⟩ := outcome_bind_eq_ok_iff.mp answered
      cases same
      have advised : Answers (tellAdvice settings) before := ⟨_, congrArg Prod.fst told⟩
      refine ⟨rfl, ?_⟩
      exact (answers_forM_iff (fun advice => answers_print_iff (adviceText advice)) _ _).mp advised
  · rintro ⟨settled, printable⟩
    rw [outcome_settle settled printable]

end Settling

section Sources

def asInputs {α : Type} (input : α → Input) (loaded : Loaded (List α)) : Loaded (List Input) :=
  loaded.map fun outcome => outcome.map fun items => items.map input

def sourcesOf (surroundings : Surroundings) (arguments : Arguments) (tree : FileTree) :
    List (Loaded (List Input)) :=
  (arguments.files.map fun file => asInputs .declaration (fromFile tree (Path.ofText file))) ++
  ((CommandLine.given arguments.url).toList.map fun url =>
    asInputs .declaration (fromUrl url surroundings.response)) ++
  arguments.modules.map fun name =>
    asInputs .modelClass (name.elim fromNoModule (fromModule surroundings.modules))

theorem loadAll_eq_join (surroundings : Surroundings) (arguments : Arguments) (tree : FileTree) :
    loadAll surroundings arguments tree =
      loadAll.join (sourcesOf surroundings arguments tree) := rfl

/-- Inputs are had exactly if every source brings some; they are put together in order. -/
theorem join_eq_ok_iff {sources : List (Loaded (List Input))} {inputs : List Input} :
    (loadAll.join sources).value = .ok inputs ↔
      ∃ parts : List (List Input), sources.map Logged.value = parts.map .ok ∧ parts.flatten = inputs := by
  induction sources generalizing inputs with
  | nil =>
    constructor
    · intro joined
      cases joined
      exact ⟨[], rfl, rfl⟩
    · rintro ⟨parts, brought, rfl⟩
      rw [List.map_eq_nil_iff.mp brought.symm]
      rfl
  | cons first rest ih =>
    rw [loadAll.join, Logged.andThenOk]
    cases loaded : first.value with
    | error failure =>
      simp only [reduceCtorEq, false_iff, List.map_cons, loaded]
      rintro ⟨parts, brought, _⟩
      cases parts with
      | nil => simp at brought
      | cons part more => simp at brought
    | ok part =>
      simp only [Logged.value_after, Logged.map, Outcome.map_eq_ok_iff, ih, List.map_cons, loaded]
      constructor
      · rintro ⟨_, ⟨parts, brought, rfl⟩, rfl⟩
        exact ⟨part :: parts, by rw [brought, List.map_cons], rfl⟩
      · rintro ⟨parts, brought, rfl⟩
        cases parts with
        | nil => simp at brought
        | cons head more =>
          obtain ⟨same, later⟩ := List.cons.inj brought
          cases same
          exact ⟨_, ⟨more, later, rfl⟩, rfl⟩

theorem failed_of_join {sources : List (Loaded (List Input))} {failure : LoadFailure}
    (failed : (loadAll.join sources).value = .error failure) :
    ∃ source ∈ sources, source.value = .error failure := by
  induction sources with
  | nil => cases failed
  | cons first rest ih =>
    rw [loadAll.join, Logged.andThenOk] at failed
    cases loaded : first.value with
    | error other =>
      rw [loaded] at failed
      cases failed
      exact ⟨first, List.mem_cons_self, loaded⟩
    | ok part =>
      simp only [loaded, Logged.value_after, Logged.map, Outcome.map_eq_error_iff] at failed
      obtain ⟨source, inside, later⟩ := ih failed
      exact ⟨source, List.mem_cons_of_mem first inside, later⟩

def TellsOfLoading {α : Type} (loaded : Logged α) : Prop :=
  ∀ entry ∈ loaded.logs, entry.source = .loading

theorem TellsOfLoading.after {α : Type} {records : List LogRecord} {loaded : Logged α}
    (tells : ∀ entry ∈ records, entry.source = .loading) (later : TellsOfLoading loaded) :
    TellsOfLoading (.after records loaded) := by
  intro entry member
  rcases List.mem_append.mp member with here | there
  · exact tells entry here
  · exact later entry there

theorem tellsOfLoading_silent {α : Type} (value : α) : TellsOfLoading (.silent value) := by
  simp [TellsOfLoading, Logged.silent]

theorem TellsOfLoading.asInputs {α : Type} {loaded : Loaded (List α)} (tells : TellsOfLoading loaded)
    (input : α → Input) : TellsOfLoading (asInputs input loaded) := tells

theorem tellsOfLoading_ofDocument (document : Value) (source : String) :
    TellsOfLoading (ofDocument document source) := by
  unfold ofDocument
  split
  · exact tellsOfLoading_silent _
  · simp [TellsOfLoading, loadedRecord, record]

theorem tellsOfLoading_fromFile (tree : FileTree) (path : Path) :
    TellsOfLoading (fromFile tree path) := by
  refine .after (by simp [record]) ?_
  split
  · exact tellsOfLoading_silent _
  · exact tellsOfLoading_silent _
  · refine .after (by split <;> simp [record]) ?_
    split
    · exact tellsOfLoading_silent _
    · exact tellsOfLoading_ofDocument _ _

theorem tellsOfLoading_fromUrl (url : String) (response : Response) :
    TellsOfLoading (fromUrl url response) := by
  refine .after (by simp [record]) ?_
  split
  · exact tellsOfLoading_silent _
  · exact tellsOfLoading_ofDocument _ _

theorem tellsOfLoading_fromModule (sources : ModuleSources) (name : String) :
    TellsOfLoading (fromModule sources name) := by
  refine .after (by simp [record]) ?_
  split
  · split
    · exact tellsOfLoading_silent _
    · exact tellsOfLoading_silent _
  · simp [TellsOfLoading, record]
  · exact tellsOfLoading_silent _

theorem tellsOfLoading_sourcesOf (surroundings : Surroundings) (arguments : Arguments)
    (tree : FileTree) : ∀ source ∈ sourcesOf surroundings arguments tree, TellsOfLoading source := by
  intro source member
  rcases List.mem_append.mp member with declared | modular
  · rcases List.mem_append.mp declared with filed | addressed
    · obtain ⟨file, _, rfl⟩ := List.mem_map.mp filed
      exact (tellsOfLoading_fromFile tree _).asInputs _
    · obtain ⟨url, _, rfl⟩ := List.mem_map.mp addressed
      exact (tellsOfLoading_fromUrl url _).asInputs _
  · obtain ⟨name, _, rfl⟩ := List.mem_map.mp modular
    cases name with
    | none => simp [TellsOfLoading, asInputs, Logged.map, fromNoModule, record]
    | some name => exact (tellsOfLoading_fromModule _ name).asInputs _

theorem tellsOfLoading_join {sources : List (Loaded (List Input))}
    (tells : ∀ source ∈ sources, TellsOfLoading source) :
    TellsOfLoading (loadAll.join sources) := by
  induction sources with
  | nil => exact tellsOfLoading_silent _
  | cons first rest ih =>
    have here := tells first List.mem_cons_self
    have later := ih fun source inside => tells source (List.mem_cons_of_mem first inside)
    rw [loadAll.join, Logged.andThenOk]
    split
    · exact here
    · exact .after here later

end Sources

section Loading

def Traces.asked (before : Traces) (surroundings : Surroundings) (arguments : Arguments) :
    Traces :=
  (before.shown [""]).logged (loadAll surroundings arguments before.tree).logs

theorem outcome_load_of_loaded {inputs : List Input} (given : isInputGiven arguments = true)
    (loaded : (loadAll surroundings arguments before.tree).value = .ok inputs) :
    outcome (loadInputs surroundings arguments) before =
      (.ok (.ok inputs),
        (before.asked surroundings arguments).logged [countRecord inputs.length]) := by
  simp only [loadInputs, given, Bool.not_true, Bool.false_eq_true, if_false]
  rw [outcome_bind_of_ok (outcome_get before), outcome_bind_of_ok (outcome_printLines _ _),
    outcome_bind_of_ok (outcome_addLogs _ _), loaded]
  rfl

theorem outcome_load_of_failed {failure : LoadFailure} (given : isInputGiven arguments = true)
    (failed : (loadAll surroundings arguments before.tree).value = .error failure) :
    ∃ answer, outcome (loadInputs surroundings arguments) before =
        (answer, before.asked surroundings arguments) ∧
      ∀ inputs, answer ≠ .ok (.ok inputs) := by
  simp only [loadInputs, given, Bool.not_true, Bool.false_eq_true, if_false]
  rw [outcome_bind_of_ok (outcome_get before), outcome_bind_of_ok (outcome_printLines _ _),
    outcome_bind_of_ok (outcome_addLogs _ _), failed]
  cases refused : refusalOf? failure with
  | none => exact ⟨.error (.load failure), by simp [refused, Traces.asked], by simp⟩
  | some refusal => exact ⟨.ok (.error refusal), by simp [refused, Traces.asked], by simp⟩

theorem outcome_load_of_missing (missing : isInputGiven arguments = false) :
    outcome (loadInputs surroundings arguments) before =
      (.ok (.error (.usage "Input required (FILE, --url or --module)")), before) := by
  simp only [loadInputs, missing, Bool.not_false, if_true]
  rfl

theorem load_eq_ok_iff {inputs : List Input} :
    (outcome (loadInputs surroundings arguments) before).1 = .ok (.ok inputs) ↔
      isInputGiven arguments = true ∧
        (loadAll surroundings arguments before.tree).value = .ok inputs := by
  cases given : isInputGiven arguments with
  | false => simp [outcome_load_of_missing given]
  | true =>
    cases loaded : (loadAll surroundings arguments before.tree).value with
    | ok other => simp [outcome_load_of_loaded given loaded]
    | error failure =>
      obtain ⟨answer, reached, unloaded⟩ := outcome_load_of_failed given loaded
      simp [reached, unloaded]

theorem load_leaves (surroundings : Surroundings) (arguments : Arguments) (before : Traces) :
    ∃ blank records, (blank = [] ∨ blank = [""]) ∧
      (∀ entry ∈ records, entry.source = .loading ∨ entry.source = .commandLine) ∧
      (outcome (loadInputs surroundings arguments) before).2 =
        (before.shown blank).logged records := by
  cases given : isInputGiven arguments with
  | false =>
    refine ⟨[], [], .inl rfl, by simp, ?_⟩
    rw [outcome_load_of_missing given]
    simp [Traces.shown, Traces.logged]
  | true =>
    have tells : TellsOfLoading (loadAll surroundings arguments before.tree) :=
      tellsOfLoading_join (tellsOfLoading_sourcesOf surroundings arguments before.tree)
    cases loaded : (loadAll surroundings arguments before.tree).value with
    | ok inputs =>
      refine ⟨[""], (loadAll surroundings arguments before.tree).logs ++
        [countRecord inputs.length], .inr rfl, ?_, ?_⟩
      · intro entry member
        rcases List.mem_append.mp member with here | there
        · exact .inl (tells entry here)
        · rw [List.mem_singleton.mp there]
          exact .inr rfl
      · rw [outcome_load_of_loaded given loaded]
        simp [Traces.asked, Traces.logged]
    | error failure =>
      obtain ⟨answer, reached, _⟩ := outcome_load_of_failed given loaded
      exact ⟨[""], _, .inr rfl, fun entry member => .inl (tells entry member), by rw [reached]; rfl⟩

end Loading

structure Prepares (advice : List Advice) (before after : Traces) : Prop where
  tree : after.tree = before.tree
  printed : ∃ told blank, told <+: advice ∧ (blank = [] ∨ blank = [""]) ∧
    after.printed = before.printed ++ told.flatMap adviceLines ++ blank
  logs : ∃ records, after.logs = before.logs ++ records ∧
    ∀ entry ∈ records, entry.source = .loading ∨ entry.source = .commandLine

theorem prepares_told {advice told : List Advice} (above : told <+: advice) (before : Traces) :
    Prepares advice before (before.shown (told.flatMap adviceLines)) where
  tree := rfl
  printed := ⟨told, [], above, .inl rfl, by simp [Traces.shown]⟩
  logs := ⟨[], by simp [Traces.shown], by simp⟩

theorem Prepares.refl (advice : List Advice) (before : Traces) : Prepares advice before before := by
  simpa [Traces.shown] using prepares_told (List.nil_prefix : [] <+: advice) before

def Traces.readied (before : Traces) (surroundings : Surroundings) (arguments : Arguments)
    (settings : Settings) (inputs : List Input) : Traces :=
  ((before.shown (settings.draft.advice.flatMap adviceLines)).asked surroundings arguments).logged
    [countRecord inputs.length]

theorem outcome_prepare {settings : Settings} {inputs : List Input} {generator : Generator}
    (ready : Ready surroundings arguments before.tree settings inputs generator)
    (printable : ∀ advice ∈ settings.draft.advice, Printable (adviceText advice)) :
    outcome (prepare surroundings arguments) before =
      (.ok (.ok (generator, inputs)), before.readied surroundings arguments settings inputs) := by
  have loading : outcome (loadInputs surroundings arguments)
      (before.shown (settings.draft.advice.flatMap adviceLines)) = _ :=
    outcome_load_of_loaded ready.given ready.loaded
  rw [prepare, outcome_bind_of_ok (outcome_settle ready.settled printable)]
  simp only
  rw [outcome_bind_of_ok loading]
  simp only [ready.made, outcome_pure]
  rfl

/-- A command gets to a run exactly if everything for it is there and all advice can be printed. -/
theorem prepare_eq_ok_iff {inputs : List Input} {generator : Generator} :
    (outcome (prepare surroundings arguments) before).1 = .ok (.ok (generator, inputs)) ↔
      ∃ settings, Ready surroundings arguments before.tree settings inputs generator ∧
        ∀ advice ∈ settings.draft.advice, Printable (adviceText advice) := by
  constructor
  · intro prepared
    obtain ⟨answer, told, settling, afterSettings⟩ := outcome_bind_eq_ok_iff.mp prepared
    cases answer with
    | error refusal => simp at afterSettings
    | ok settings =>
      obtain ⟨settled, printable⟩ := settle_eq_ok_iff.mp (congrArg Prod.fst settling)
      cases settling.symm.trans (outcome_settle settled printable)
      obtain ⟨answer, asked, loading, afterInputs⟩ := outcome_bind_eq_ok_iff.mp afterSettings
      cases answer with
      | error refusal => simp at afterInputs
      | ok loaded =>
        obtain ⟨given, brought⟩ := load_eq_ok_iff.mp (congrArg Prod.fst loading)
        cases made : Generator.make settings .shipped with
        | error error => simp [made] at afterInputs
        | ok other =>
          simp only [made, outcome_pure, Except.ok.injEq, Prod.mk.injEq] at afterInputs
          obtain ⟨rfl, rfl⟩ := afterInputs
          exact ⟨settings, ⟨settled, given, brought, made⟩, printable⟩
  · rintro ⟨settings, ready, printable⟩
    rw [outcome_prepare ready printable]

theorem load_prepares {advice told : List Advice} (above : told <+: advice)
    (surroundings : Surroundings) (arguments : Arguments) (before : Traces) :
    Prepares advice before
      (outcome (loadInputs surroundings arguments)
        (before.shown (told.flatMap adviceLines))).2 := by
  obtain ⟨blank, records, empty, tells, left⟩ :=
    load_leaves surroundings arguments (before.shown (told.flatMap adviceLines))
  rw [left]
  exact ⟨rfl, ⟨told, blank, above, empty, rfl⟩, ⟨records, rfl, tells⟩⟩

theorem outcome_prepare_of_unprintable (surroundings : Surroundings) {settings : Settings}
    (settled : settingsFor arguments before.tree = .ok settings)
    (unprintable : ¬∀ advice ∈ settings.draft.advice, Printable (adviceText advice)) :
    ∃ failure after, outcome (prepare surroundings arguments) before = (.error failure, after) := by
  obtain ⟨_, _, _, failed⟩ := outcome_settle_of_unprintable settled unprintable
  exact ⟨_, _, outcome_bind_of_error failed⟩

/-- Preparations leave nothing else behind, whatever they come to. -/
theorem prepare_prepares (surroundings : Surroundings) (arguments : Arguments) (before : Traces) :
    Prepares (adviceFor arguments before.tree) before
      (outcome (prepare surroundings arguments) before).2 := by
  obtain ⟨told, above, shown⟩ := settle_shows arguments before
  have settling := prepares_told above before
  have loading := load_prepares above surroundings arguments before
  rcases settled : outcome (settleSettings arguments) before with ⟨answer, after⟩
  rw [settled] at shown
  obtain rfl : after = before.shown (told.flatMap adviceLines) := shown
  rcases answer with failure | refusal | settings
  · rw [prepare, outcome_bind_of_error settled]
    exact settling
  · rw [prepare, outcome_bind_of_ok settled]
    exact settling
  · rw [prepare, outcome_bind_of_ok settled]
    rcases loaded : outcome (loadInputs surroundings arguments)
      (before.shown (told.flatMap adviceLines)) with ⟨answer, after⟩
    rw [loaded] at loading
    simp only
    rcases answer with failure | refusal | inputs
    · rw [outcome_bind_of_error loaded]
      exact loading
    · rw [outcome_bind_of_ok loaded]
      exact loading
    · rw [outcome_bind_of_ok loaded]
      -- Neither a generator nor its absence leaves anything.
      simp only
      split
      · exact loading
      · exact loading

end SqlScaffold.CommandLine
