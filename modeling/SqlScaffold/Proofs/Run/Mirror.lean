import SqlScaffold.Proofs.Emit.Folder
import SqlScaffold.Proofs.Emit.Memory
import SqlScaffold.Proofs.Run.Declarations
import SqlScaffold.Proofs.Run.Simulation

/-!
Folders as mirrors of memory. If a folder is new and replaces no files, a run stores there the same
units as it does in memory and refuses the same ones, as long as the names of models are words and
the system takes the paths.
-/

namespace SqlScaffold

open Emit Files Scan Source

namespace Emit

structure Mirrors (before : FileTree) (root : Path) (place : Location) (stored : List SourceUnit)
    (tree : FileTree) (artifacts : Artifacts) : Prop where
  artifacts : artifacts = stored.map entryOf
  houses : Houses before root place stored tree

/-- The step: a folder refuses a unit exactly if memory does, and else both store it. -/
theorem keeping_matches {before : FileTree} {root : Path} {place : Location} {unit : SourceUnit}
    (placed : IsPlaced unit) (short : (root.below (partsOf unit)).IsShort) :
    Matches (Mirrors before root place) (toDirectory (.keeping root)) toMemory unit := by
  rintro stored tree artifacts ⟨rfl, houses⟩
  by_cases held : unit.qualifiedName ∈ (stored.map entryOf).map Prod.fst
  · have kept := toMemory_of_held held
    rw [names_entries] at held
    obtain ⟨other, member, same⟩ := List.mem_map.mp held
    have there := houses.holds_of_mem member
    rw [(partsOf_eq_iff (houses.placed other member) placed).mpr same,
      ← pathOf_keeping placed] at there
    rw [toDirectory_of_held there, kept]
    exact .refused rfl rfl ⟨rfl, houses⟩
  · have kept := toMemory_of_free held
    rw [names_entries] at held
    have others : ∀ other ∈ stored, partsOf unit ≠ partsOf other := fun other member same =>
      held (List.mem_map.mpr ⟨other, member,
        ((partsOf_eq_iff placed (houses.placed other member)).mp same).symm⟩)
    obtain ⟨accepted, grown⟩ := houses.store placed short others
    rw [kept]
    exact .stored accepted rfl ⟨by simp, grown⟩

end Emit

namespace Run

variable {generator : Generator}

theorem model_of_generatedUnits {inputs : List Input} {unit : SourceUnit}
    (member : unit ∈ generatedUnits generator inputs) :
    ∃ model ∈ scannedModels generator inputs, unit.package = model.package ∧
      (unit.name = model.name ++ generator.settings.supportSuffix ∨
        unit.name = model.name ++ generator.settings.mapperSuffix) := by
  obtain ⟨input, listed, inside⟩ := List.mem_flatMap.mp member
  cases declared : modelOf? generator input with
  | none => simp [unitsOf, declared] at inside
  | some model =>
    have scanned := modelOf?_eq_some_iff.mp declared
    cases made : generator.units model with
    | error failure => simp [unitsOf, declared, made, Except.toOption] at inside
    | ok units =>
      exact ⟨model, List.mem_filterMap.mpr ⟨input, listed, declared⟩,
        named_of_unitsOf scanned made unit inside⟩

structure Mirrored (directory : Directory) (before : FileTree) (onDisk : Progress FileTree)
    (inMemory : Progress Artifacts) : Prop where
  failure : onDisk.failure = inMemory.failure
  report : onDisk.report.Agrees inMemory.report
  artifacts : inMemory.state = inMemory.report.units.map entryOf
  written : ∀ unit ∈ inMemory.report.units, ∃ location,
    onDisk.state.locate (directory.pathOf unit) = .ok location ∧
      before.content? location = none ∧ onDisk.state.content? location = some (.text unit.body)
  others : ∀ location,
    (∀ unit ∈ inMemory.report.units,
      onDisk.state.locate (directory.pathOf unit) ≠ .ok location) →
    onDisk.state.content? location = before.content? location
  apart : (inMemory.report.units.map fun unit =>
    onDisk.state.locate (directory.pathOf unit)).Nodup

theorem mirrored_of_simulates {before : FileTree} {root : Path} {place : Location}
    {onDisk : Progress FileTree} {inMemory : Progress Artifacts}
    (simulates : Simulates (Mirrors before root place) onDisk inMemory) :
    Mirrored (.keeping root) before onDisk inMemory := by
  obtain ⟨failure, report, artifacts, houses⟩ := simulates
  rw [report.units] at artifacts houses
  have located : ∀ unit ∈ inMemory.report.units,
      onDisk.state.locate ((Directory.keeping root).pathOf unit) = .ok (place ++ partsOf unit) := by
    intro unit member
    rw [pathOf_keeping (houses.placed unit member)]
    exact houses.located unit member
  refine ⟨failure, report, artifacts, ?written, ?others, ?apart⟩
  case written =>
    intro unit member
    exact ⟨_, located unit member, houses.unheld unit member, houses.contents unit member⟩
  case others =>
    intro location apart
    refine houses.others location fun unit member same => apart unit member ?_
    rw [located unit member, same]
  case apart =>
    have distinct := houses.distinct
    rw [List.Nodup, List.pairwise_map] at distinct ⊢
    refine distinct.imp_of_mem fun {unit other} here there names same => names ?_
    rw [located unit here, located other there] at same
    exact (partsOf_eq_iff (houses.placed unit here) (houses.placed other there)).mp
      (List.append_cancel_left (Except.ok.inj same))

/-- A run stores the same units in a new folder as it does in memory. -/
theorem run_mirrored {settings : Settings} {library : Template.Library} {generator : Generator}
    (made : Generator.make settings library = .ok generator)
    (unadvised : settings.draft.advice = []) (inputs : List Input)
    (words : ∀ model ∈ scannedModels generator inputs, HasWordNames model) {tree : FileTree}
    {root : Path} (fresh : tree.IsFresh root)
    (accepted : ∀ unit ∈ generatedUnits generator inputs,
      ((Directory.keeping root).pathOf unit).IsShort) :
    Mirrored (.keeping root) tree
      (run generator (toDirectory (.keeping root)) inputs tree).value
      (run generator toMemory inputs []).value := by
  obtain ⟨support, mapper⟩ := suffixes_of_unadvised unadvised
  rw [← (Generator.make_eq_ok made).1] at support mapper
  have placed : ∀ unit ∈ generatedUnits generator inputs, IsPlaced unit := by
    intro unit member
    obtain ⟨model, listed, package, named | named⟩ := model_of_generatedUnits member
    · exact (words model listed).placed support package named
    · exact (words model listed).placed mapper package named
  obtain ⟨place, houses⟩ := houses_nil fresh
  have alike : ∀ unit ∈ generatedUnits generator inputs,
      Matches (Mirrors tree root place) (toDirectory (.keeping root)) toMemory unit := by
    intro unit member
    have short := accepted unit member
    rw [pathOf_keeping (placed unit member)] at short
    exact keeping_matches (placed unit member) short
  exact mirrored_of_simulates (run_simulates alike ⟨rfl, houses⟩)

theorem isFresh_out : FileTree.IsFresh ⟨[], []⟩ (Path.ofText "out") := by
  have parts : Path.ofText "out" = ⟨.current, ["out"]⟩ := by decide +kernel
  rw [parts]
  refine FileTree.isFresh_of_free (by decide +kernel) (by decide) ?unfiled ?empty
  case unfiled =>
    intro above _
    simp [FileTree.kind?]
  case empty =>
    intro part rest
    simp [FileTree.kind?, FileTree.isOutside, FileTree.startOf]

/-- A model in a package is declared twice, so that four units go to two paths. -/
theorem run_mirrored_repeated :
    let declared := Input.declaration (.object [("package", .text "a.b"), ("name", .text "C")])
    FileTree.IsFresh ⟨[], []⟩ (Path.ofText "out") ∧
      (generatedUnits .standard [declared, declared]).length = 4 ∧
      Mirrored (.keeping (Path.ofText "out")) ⟨[], []⟩
        (run .standard (toDirectory (.keeping (Path.ofText "out"))) [declared, declared]
          ⟨[], []⟩).value
        (run .standard toMemory [declared, declared] []).value := by
  intro declared
  have scanned : scannedModels .standard [declared, declared] =
      [Generator.fieldless "a.b" "C" (by decide), Generator.fieldless "a.b" "C" (by decide)] := rfl
  have made : Generator.make {} .shipped = .ok .standard := rfl
  obtain ⟨_, _, written⟩ := Generator.fieldless_ok "a.b" "C" (by decide)
  have each : unitsOf .standard declared = _ := unitsOf_scanned rfl written
  refine ⟨isFresh_out, by simp [generatedUnits, each],
    run_mirrored made (by decide +kernel) _ ?words isFresh_out ?accepted⟩
  case words =>
    intro model member
    rw [scanned] at member
    obtain rfl : model = Generator.fieldless "a.b" "C" (by decide) := by simpa using member
    exact ⟨by decide +kernel, by decide +kernel⟩
  case accepted =>
    intro unit member
    obtain ⟨model, listed, package, named⟩ := model_of_generatedUnits member
    rw [scanned] at listed
    obtain rfl : model = Generator.fieldless "a.b" "C" (by decide) := by simpa using listed
    rcases named with support | mapper
    · rw [Directory.pathOf, package, support]
      decide +kernel
    · rw [Directory.pathOf, package, mapper]
      decide +kernel

def upward : Directory := .keeping (Path.ofText "new/../out")

def oldMapper : FileTree := .ofFiles [("out/AMyBatisDSLMapper.java", .text "old")]

def plainInput : Input := .declaration (.object [("name", .text "A")])

/-- The folder does not exist yet, and still one unit is refused there that memory stores. -/
theorem run_unmirrored_upward :
    let onDisk := (run .standard (toDirectory upward) [plainInput] oldMapper).value
    let inMemory := (run .standard toMemory [plainInput] []).value
    oldMapper.holds upward.root = .ok false ∧
      Generator.make {} .shipped = .ok .standard ∧ ({} : Settings).draft.advice = [] ∧
      (∀ model ∈ scannedModels .standard [plainInput], HasWordNames model) ∧
      (onDisk.failure = none ∧ onDisk.report.units.length = 1) ∧
      inMemory.failure = none ∧ inMemory.report.units.length = 2 := by
  obtain ⟨_, _, made⟩ := Generator.fieldless_ok "" "A" (by decide)
  have stored : (run .standard toMemory [plainInput] []).value.failure = none ∧
      (run .standard toMemory [plainInput] []).value.report.units.length = 2 := by
    rw [value_run, plainInput, value_runFrom_generated _ _ _ rfl made]
    exact ⟨rfl, rfl⟩
  refine ⟨by decide +kernel, rfl, by decide +kernel, ?words, by decide +kernel, stored⟩
  case words =>
    have scanned : scannedModels .standard [plainInput] =
        [Generator.fieldless "" "A" (by decide)] := rfl
    intro model member
    rw [scanned] at member
    obtain rfl : model = Generator.fieldless "" "A" (by decide) := by simpa using member
    exact ⟨by decide +kernel, by decide +kernel⟩

end Run

end SqlScaffold
