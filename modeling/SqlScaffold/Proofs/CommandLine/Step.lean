import Mathlib.Order.Defs.Unbundled
import SqlScaffold.CommandLine.Command
import SqlScaffold.Proofs.Console.Printed

/-!
Steps of a command: what they answer and what they leave behind. A step that prints marked texts
answers exactly if all of them can be printed, whatever was left behind before it.
-/

namespace SqlScaffold.CommandLine

open Console

variable {α β ι : Type} {traces after : Traces}

def outcome (step : Step α) (traces : Traces) : Except Failure α × Traces :=
  step.run.run traces

@[simp] theorem outcome_pure (value : α) (traces : Traces) :
    outcome (pure value) traces = (.ok value, traces) := rfl

@[simp] theorem outcome_throw (failure : Failure) (traces : Traces) :
    outcome (throw failure : Step α) traces = (.error failure, traces) := rfl

@[simp] theorem outcome_get (traces : Traces) : outcome get traces = (.ok traces, traces) := rfl

@[simp] theorem outcome_modify (change : Traces → Traces) (traces : Traces) :
    outcome (modify change) traces = (.ok (), change traces) := rfl

section Bind

variable {first : Step α} {next : α → Step β}

theorem outcome_bind (first : Step α) (next : α → Step β) (traces : Traces) :
    outcome (first >>= next) traces =
      match outcome first traces with
      | (.ok value, after) => outcome (next value) after
      | (.error failure, after) => (.error failure, after) := by
  unfold outcome
  rw [ExceptT.run_bind, StateT.run_bind]
  rcases first.run.run traces with ⟨failure | value, after⟩
  · rfl
  · rfl

theorem outcome_bind_of_ok {value : α} (answered : outcome first traces = (.ok value, after)) :
    outcome (first >>= next) traces = outcome (next value) after := by
  rw [outcome_bind, answered]

theorem outcome_bind_of_error {failure : Failure}
    (failed : outcome first traces = (.error failure, after)) :
    outcome (first >>= next) traces = (.error failure, after) := by
  rw [outcome_bind, failed]

theorem outcome_bind_eq_ok_iff {result : β} :
    (outcome (first >>= next) traces).1 = .ok result ↔
      ∃ value after, outcome first traces = (.ok value, after) ∧
        (outcome (next value) after).1 = .ok result := by
  rcases reached : outcome first traces with ⟨failure | value, after⟩
  · simp [outcome_bind_of_error reached]
  · rw [outcome_bind_of_ok reached]
    constructor
    · intro answered
      exact ⟨value, after, rfl, answered⟩
    · rintro ⟨_, _, same, answered⟩
      cases same
      exact answered

end Bind

def Answers (step : Step α) (traces : Traces) : Prop :=
  ∃ value, (outcome step traces).1 = .ok value

@[simp] theorem answers_pure (value : α) (traces : Traces) : Answers (pure value) traces :=
  ⟨value, rfl⟩

theorem answers_then_iff {first : Step α} {next : Step β} {condition : Prop}
    (later : ∀ traces, Answers next traces ↔ condition) :
    Answers (first >>= fun _ => next) traces ↔ Answers first traces ∧ condition := by
  unfold Answers at *
  simp only [outcome_bind_eq_ok_iff]
  constructor
  · rintro ⟨result, value, after, reached, answered⟩
    exact ⟨⟨value, by rw [reached]⟩, (later after).mp ⟨result, answered⟩⟩
  · rintro ⟨⟨value, reached⟩, holds⟩
    obtain ⟨result, answered⟩ := (later (outcome first traces).2).mpr holds
    exact ⟨result, value, _, Prod.ext reached rfl, answered⟩

theorem answers_forM_iff {step : ι → Step Unit} {condition : ι → Prop}
    (each : ∀ item traces, Answers (step item) traces ↔ condition item) (items : List ι)
    (traces : Traces) : Answers (items.forM step) traces ↔ ∀ item ∈ items, condition item := by
  induction items generalizing traces with
  | nil => simp [List.forM]
  | cons item rest ih =>
    rw [List.forM, answers_then_iff ih, each, List.forall_mem_cons]

def Keeps (relation : Traces → Traces → Prop) (step : Step α) : Prop :=
  ∀ traces, relation traces (outcome step traces).2

section Keeps

variable {relation : Traces → Traces → Prop}

theorem keeps_pure [Std.Refl relation] (value : α) : Keeps relation (pure value : Step α) :=
  fun traces => Std.Refl.refl traces

theorem keeps_throw [Std.Refl relation] (failure : Failure) :
    Keeps relation (throw failure : Step α) :=
  fun traces => Std.Refl.refl traces

theorem Keeps.bind [IsTrans Traces relation] {first : Step α} {next : α → Step β}
    (kept : Keeps relation first) (later : ∀ value, Keeps relation (next value)) :
    Keeps relation (first >>= next) := by
  intro traces
  have here := kept traces
  rcases reached : outcome first traces with ⟨failure | value, after⟩
  · rw [reached] at here
    rw [outcome_bind_of_error reached]
    exact here
  · rw [reached] at here
    rw [outcome_bind_of_ok reached]
    exact IsTrans.trans _ _ _ here (later value after)

theorem keeps_forM [Std.Refl relation] [IsTrans Traces relation] {step : ι → Step Unit}
    (each : ∀ item, Keeps relation (step item)) (items : List ι) :
    Keeps relation (items.forM step) := by
  induction items with
  | nil => exact keeps_pure ()
  | cons item rest ih => exact (each item).bind fun _ => ih

end Keeps

def Traces.shown (traces : Traces) (lines : List String) : Traces :=
  { traces with printed := traces.printed ++ lines }

theorem Traces.shown_shown (traces : Traces) (earlier later : List String) :
    (traces.shown earlier).shown later = traces.shown (earlier ++ later) := by
  simp [Traces.shown]

@[simp] theorem outcome_printLines (lines : List String) (traces : Traces) :
    outcome (printLines lines) traces = (.ok (), traces.shown lines) := rfl

def Traces.logged (traces : Traces) (records : List LogRecord) : Traces :=
  { traces with logs := traces.logs ++ records }

@[simp] theorem outcome_addLogs (records : List LogRecord) (traces : Traces) :
    outcome (addLogs records) traces = (.ok (), traces.logged records) := rfl

def shownLines (marked : String) : List String := (printedLines marked).toOption.getD []

theorem outcome_print {marked : String} (printable : Printable marked) (traces : Traces) :
    outcome (print marked) traces = (.ok (), traces.shown (shownLines marked)) := by
  obtain ⟨lines, printed⟩ := (printedLines_ok_iff marked).mpr printable
  simp [print, shownLines, printed, Except.toOption]

theorem outcome_print_failed {marked : String} (unprintable : ¬Printable marked)
    (traces : Traces) :
    ∃ error, outcome (print marked) traces = (.error (.markup error), traces) := by
  cases printed : printedLines marked with
  | ok lines => exact absurd ((printedLines_ok_iff marked).mp ⟨lines, printed⟩) unprintable
  | error error => exact ⟨error, by simp [print, printed]⟩

theorem answers_print_iff (marked : String) (traces : Traces) :
    Answers (print marked) traces ↔ Printable marked := by
  by_cases printable : Printable marked
  · simp [Answers, outcome_print printable, printable]
  · obtain ⟨error, failed⟩ := outcome_print_failed printable traces
    simp [Answers, failed, printable]

theorem outcome_forM_print {text : ι → String} {items : List ι}
    (printable : ∀ item ∈ items, Printable (text item)) (traces : Traces) :
    outcome (items.forM fun item => print (text item)) traces =
      (.ok (), traces.shown (items.flatMap fun item => shownLines (text item))) := by
  induction items generalizing traces with
  | nil => simp [List.forM, Traces.shown]
  | cons item rest ih =>
    rw [List.forM, outcome_bind_of_ok (outcome_print (printable item List.mem_cons_self) traces),
      ih fun other member => printable other (List.mem_cons_of_mem item member),
      Traces.shown_shown, List.flatMap_cons]

theorem outcome_forM_print_failed {text : ι → String} {items : List ι}
    (unprintable : ¬∀ item ∈ items, Printable (text item)) (traces : Traces) :
    ∃ told error, told <+: items ∧ outcome (items.forM fun item => print (text item)) traces =
      (.error (.markup error), traces.shown (told.flatMap fun item => shownLines (text item))) := by
  induction items generalizing traces with
  | nil => simp at unprintable
  | cons item rest ih =>
    rw [List.forM]
    by_cases printable : Printable (text item)
    · have later : ¬∀ other ∈ rest, Printable (text other) := by
        simpa [printable] using unprintable
      obtain ⟨told, error, above, failed⟩ := ih later (traces.shown (shownLines (text item)))
      refine ⟨item :: told, error, List.cons_prefix_cons.mpr ⟨rfl, above⟩, ?_⟩
      rw [outcome_bind_of_ok (outcome_print printable traces), failed, Traces.shown_shown,
        List.flatMap_cons]
    · obtain ⟨error, failed⟩ := outcome_print_failed printable traces
      refine ⟨[], error, List.nil_prefix, ?_⟩
      rw [outcome_bind_of_error failed]
      simp [Traces.shown]

end SqlScaffold.CommandLine
