import Mathlib.Data.List.Perm.Basic
import SqlScaffold.Proofs.Run.Artifacts
import SqlScaffold.Proofs.Run.Composition

/-!
The order of inputs. What a run over some inputs stores, warns about and rejects is told by each
input alone. If no unit is refused, the inputs can therefore be put in any order; the place of an
input shows only where a rejection has no name to call it by.
-/

namespace SqlScaffold

structure Diagnostic.Resembles (first second : Diagnostic) : Prop where
  kind : first.kind = second.kind
  message : first.message = second.message
  subject : first.subject = second.subject ∨
    ∃ place other : Nat, first.subject = "input #" ++ toString place ∧
      second.subject = "input #" ++ toString other

theorem Diagnostic.Resembles.symm {first second : Diagnostic} (alike : first.Resembles second) :
    second.Resembles first := by
  refine ⟨alike.kind.symm, alike.message.symm, ?_⟩
  rcases alike.subject with same | ⟨place, other, here, there⟩
  · exact Or.inl same.symm
  · exact Or.inr ⟨other, place, there, here⟩

theorem Diagnostic.Resembles.trans {first second third : Diagnostic}
    (earlier : first.Resembles second) (later : second.Resembles third) :
    first.Resembles third := by
  refine ⟨earlier.kind.trans later.kind, earlier.message.trans later.message, ?_⟩
  rcases earlier.subject with same | ⟨place, other, here, there⟩
  · rw [same]
    exact later.subject
  · rcases later.subject with same | ⟨_, further, _, behind⟩
    · exact Or.inr ⟨place, other, here, same ▸ there⟩
    · exact Or.inr ⟨place, further, here, behind⟩

def ResembleEach (first second : List Diagnostic) : Prop :=
  List.Forall₂ Diagnostic.Resembles first second

theorem ResembleEach.symm {first second : List Diagnostic} (alike : ResembleEach first second) :
    ResembleEach second first :=
  List.Forall₂.flip (alike.imp fun _ _ => Diagnostic.Resembles.symm)

theorem ResembleEach.trans {first second third : List Diagnostic}
    (earlier : ResembleEach first second) (later : ResembleEach second third) :
    ResembleEach first third := by
  induction earlier generalizing third with
  | nil => exact later
  | cons here _ ih =>
    cases later with
    | cons there further => exact .cons (here.trans there) (ih further)

namespace Run

open Emit Scan

variable {generator : Generator}

def rejections (generator : Generator) (inputs : List Input) : List Diagnostic :=
  inputs.filterMap (scanDiagnostic? generator 0)

theorem describe_resembles (input : Input) (place other : Nat) (message : String) :
    Diagnostic.Resembles ⟨"scan", input.describe place, message⟩
      ⟨"scan", input.describe other, message⟩ := by
  refine ⟨rfl, rfl, ?_⟩
  rw [input.describe_eq, input.describe_eq]
  cases input.ownName? with
  | some name => exact Or.inl rfl
  | none => exact Or.inr ⟨place, other, rfl, rfl⟩

/-- The places of the inputs show only in subjects. -/
theorem scanDiagnostics_resemble (index : Nat) (inputs : List Input) :
    ResembleEach (scanDiagnostics generator index inputs) (rejections generator inputs) := by
  induction inputs generalizing index with
  | nil => exact .nil
  | cons input rest ih =>
    have later := ih (index + 1)
    simp only [scanDiagnostics, rejections, List.filterMap_cons] at later ⊢
    unfold scanDiagnostic?
    split
    · exact .cons (describe_resembles input index 0 _) later
    · exact later

theorem scanDiagnostics_perm {first second : List Input} (perm : first.Perm second) :
    ∃ matched, ResembleEach (scanDiagnostics generator 0 first) matched ∧
      matched.Perm (scanDiagnostics generator 0 second) := by
  have same : (rejections generator first).Perm (rejections generator second) :=
    perm.filterMap _
  obtain ⟨matched, alike, reordered⟩ :=
    List.perm_comp_forall₂ same (scanDiagnostics_resemble 0 second).symm
  exact ⟨matched, (scanDiagnostics_resemble 0 first).trans alike, reordered⟩

theorem generatedUnits_perm {first second : List Input} (perm : first.Perm second) :
    (generatedUnits generator first).Perm (generatedUnits generator second) :=
  perm.flatMap_right _

/-- What memory holds under the names of some units does not hang on the order in which they were
stored. -/
theorem lookup_entries_perm {first second : List SourceUnit} (perm : first.Perm second)
    (distinct : (first.map SourceUnit.qualifiedName).Nodup) (name : String) :
    (first.map entryOf).lookup name = (second.map entryOf).lookup name := by
  have further := (perm.map SourceUnit.qualifiedName).nodup_iff.mp distinct
  rw [← names_entries] at distinct further
  ext body
  rw [Keyed.lookup_eq_some_iff_mem distinct, Keyed.lookup_eq_some_iff_mem further]
  exact (perm.map entryOf).mem_iff

structure Reordered (first second : Progress Artifacts) : Prop where
  emissions : second.report.ofKind "emission" = []
  units : first.report.units.Perm second.report.units
  warnings : first.report.warnings.Perm second.report.warnings
  artifacts : ∀ name, first.state.lookup name = second.state.lookup name
  scans : ∃ matched, ResembleEach (first.report.ofKind "scan") matched ∧
    matched.Perm (second.report.ofKind "scan")
  generations : (first.report.ofKind "generation").Perm (second.report.ofKind "generation")
  scanned : first.report.scanned = second.report.scanned

/-- If a run stores all that it generates, it does so with its inputs in any order. -/
theorem run_reordered (generator : Generator) {first second : List Input}
    (perm : first.Perm second)
    (returned : (run generator toMemory first []).value.failure = none)
    (unrefused : (run generator toMemory first []).value.report.ofKind "emission" = []) :
    (run generator toMemory second []).value.failure = none ∧
      Reordered (run generator toMemory first []).value
        (run generator toMemory second []).value := by
  obtain ⟨earlier, before⟩ := run_summary returned
  have again : (run generator toMemory second []).value.failure = none :=
    (run_returns_iff second []).mpr
      ⟨fun input member => before.passed input (perm.mem_iff.mpr member),
        fun call _ => toMemory_answered call.1 call.2⟩
  obtain ⟨later, after⟩ := run_summary again
  -- Names come twice in one order exactly if they do in the other.
  have generated : (generatedUnits generator first).Perm (generatedUnits generator second) :=
    generatedUnits_perm perm
  have distinct := (unrefused_iff_distinct returned).mp unrefused
  have kept := (unrefused_iff_distinct again).mpr ((generated.map _).nodup_iff.mp distinct)
  have stored := units_of_unrefused returned unrefused
  have restored := units_of_unrefused again kept
  refine ⟨again, ?emissions, ?units, ?warnings, ?artifacts, ?scans, ?generations, ?scanned⟩
  case emissions => exact kept
  case units =>
    rw [stored, restored]
    exact generated
  case warnings =>
    rw [before.warnings, after.warnings]
    exact (perm.filterMap _).flatMap_right _
  case artifacts =>
    intro name
    rw [artifacts_eq_units returned, artifacts_eq_units again, stored, restored]
    exact lookup_entries_perm generated distinct name
  case scans =>
    rw [before.scans, after.scans]
    exact scanDiagnostics_perm perm
  case generations =>
    rw [before.generations, after.generations]
    exact perm.filterMap _
  case scanned =>
    rw [before.scanned, after.scanned]
    exact congrArg Nat.cast (perm.filterMap _).length_eq

/-- A value without a name changes its place with a model. -/
theorem run_reordered_pair :
    let first := [Input.declaration .null, .declaration (.object [("name", .text "A")])]
    let second := [Input.declaration (.object [("name", .text "A")]), .declaration .null]
    first.Perm second ∧ (run .standard toMemory first []).value.failure = none ∧
      (run .standard toMemory first []).value.report.ofKind "emission" = [] ∧
      (run .standard toMemory second []).value.failure = none ∧
      Reordered (run .standard toMemory first []).value
        (run .standard toMemory second []).value := by
  have perm := List.Perm.swap (Input.declaration (.object [("name", .text "A")]))
    (.declaration .null) []
  have ended : (run .standard toMemory [.declaration .null,
      .declaration (.object [("name", .text "A")])] []).value.failure = none ∧
      (run .standard toMemory [.declaration .null,
        .declaration (.object [("name", .text "A")])] []).value.report.ofKind "emission" = [] := by
    obtain ⟨_, _, made⟩ := Generator.fieldless_ok "" "A" (by decide)
    rw [value_run, value_runFrom_rejected _ _ _ rfl, value_runFrom_generated _ _ _ rfl made]
    exact ⟨rfl, rfl⟩
  exact ⟨perm, ended.1, ended.2, run_reordered .standard perm ended.1 ended.2⟩

end Run

end SqlScaffold
