import SqlScaffold.Proofs.Emit.Destination
import SqlScaffold.Proofs.Run.Declarations

/-!
Runs over declared values to any destination. Such a run returns if its indentation counts and if
its destination takes every unit in the state that the units before it leave behind.
-/

namespace SqlScaffold.Run

open Emit Files Console Scan

variable {generator : Generator}

/-- Each call of a destination is answered if it takes the unit, and a run returns if all calls are
answered and the indentation counts. Declarations are made of characters: one with half of a pair of
codes would end a run into a folder with a file emptied. -/
theorem run_destination_iff {settings : Settings} {generator : Generator}
    (made : Generator.make settings .shipped = .ok generator) (destination : Destination)
    (values : List Value) (kept : Kept) :
    (∀ met unit, (destination.emitter met unit).Answered ↔ destination.Takes met unit) ∧
      ((run generator destination.emitter (values.map .declaration) kept).value.failure = none ↔
        (scannedModels generator (values.map .declaration) = [] ∨
          ∃ width, settings.indentWidth = .ok width) ∧
        ∀ call ∈ calls destination.emitter kept
          (generatedUnits generator (values.map .declaration)),
          destination.Takes call.1 call.2) := by
  obtain ⟨rfl, shipped⟩ := Generator.make_eq_ok made
  refine ⟨destination.answered_iff, ?_⟩
  rw [declarations_return_iff shipped]
  simp only [destination.answered_iff]

/-- A model whose name has no brackets is printed on the console. -/
theorem run_destination_console :
    Generator.make {} .shipped = .ok .standard ∧
      (run .standard Destination.terminal.emitter
        ([.object [("name", .text "A")]].map .declaration) ⟨⟨[], []⟩, [], []⟩).value.failure =
          none := by
  have made : Generator.make {} .shipped = .ok .standard := rfl
  refine ⟨made, (run_destination_iff made _ _ _).2.mpr ⟨Or.inr ⟨4, rfl⟩, ?_⟩⟩
  intro call member
  have inside := mem_of_mem_calls member
  simp only [generatedUnits, List.map_cons, List.map_nil, List.flatMap_singleton] at inside
  obtain ⟨_, _, generated⟩ := Generator.fieldless_ok "" "A" (by decide)
  have plain : '[' ∉ call.2.qualifiedName.toList := by
    obtain ⟨package, support | mapper⟩ := named_of_unitsOf rfl generated call.2 inside
    · rw [SourceUnit.qualifiedName, package, support]
      decide +kernel
    · rw [SourceUnit.qualifiedName, package, mapper]
      decide +kernel
  exact printable_heading plain

/-- A run does not get beyond a first unit that its destination does not take. -/
theorem stopped_of_first {destination : Destination} {kept : Kept} {input : Input}
    {rest : List Input} {model : Model} {unit : SourceUnit} {later : List SourceUnit}
    (scanned : (input.scan generator.settings.packageName).value = .ok model)
    (made : generator.units model = .ok (unit :: later))
    (untaken : ¬destination.Takes kept unit) :
    (run generator destination.emitter (input :: rest) kept).value.failure ≠ none := by
  have generated : generatedUnits generator (input :: rest) =
      unit :: (later ++ generatedUnits generator rest) := by
    rw [generatedUnits, List.flatMap_cons, unitsOf_scanned scanned made]
    rfl
  intro returned
  have answered := ((run_returns_iff (input :: rest) kept).mp returned).2
  rw [generated] at answered
  exact untaken ((destination.answered_iff kept unit).mp (answered _ List.mem_cons_self))

theorem not_takes_null (body : String) :
    ¬outFolder.Takes ⟨[], []⟩
      ⟨"", "A\x00B" ++ Generator.standard.settings.supportSuffix, body⟩ := by
  let path := outFolder.pathFor "" ("A\x00B" ++ Generator.standard.settings.supportSuffix)
  have null : path.HasNull := by decide +kernel
  have made : (FileTree.ensureDirectories ⟨[], []⟩ path.parent).2 = none := by decide +kernel
  rintro (⟨clean, _⟩ | ⟨_, error, failed⟩)
  · exact clean null
  · exact absurd (made.symm.trans failed) (by simp)

theorem not_printable_tag :
    ¬Printable (heading (qualify "" ("A[/]" ++ Generator.standard.settings.supportSuffix))) := by
  decide +kernel

/-- A null character in a name ends a run into a folder, and a tag that closes too much ends one
onto the console. -/
theorem run_destination_stopped :
    (run .standard (Destination.folder outFolder).emitter
      [.declaration (.object [("name", .text "A\x00B")])] ⟨⟨[], []⟩, [], []⟩).value.failure ≠
        none ∧
    (run .standard Destination.terminal.emitter
      [.declaration (.object [("name", .text "A[/]")])] ⟨⟨[], []⟩, [], []⟩).value.failure ≠
        none := by
  obtain ⟨support, _, made⟩ := Generator.fieldless_ok "" "A\x00B" (by decide)
  obtain ⟨_, _, tagged⟩ := Generator.fieldless_ok "" "A[/]" (by decide)
  exact ⟨stopped_of_first rfl made (not_takes_null support),
    stopped_of_first rfl tagged not_printable_tag⟩

end SqlScaffold.Run
