import SqlScaffold.Proofs.Run.Artifacts

/-!
Units found in a report. Of all units that bear a name, with their package or without it, the first
is found. Behind a run into memory no two units have one qualified name, so a unit is found under
its own unless that is the simple name of an earlier unit.
-/

namespace SqlScaffold

def SourceUnit.Bears (unit : SourceUnit) (name : String) : Prop :=
  unit.name = name ∨ unit.qualifiedName = name

theorem SourceUnit.bears_iff (unit : SourceUnit) (name : String) :
    (name == unit.name || name == unit.qualifiedName) = true ↔ unit.Bears name := by
  rw [Bool.or_eq_true, beq_iff_eq, beq_iff_eq, Bears, eq_comm, eq_comm (a := name)]

theorem findUnit_eq_none_iff {name : String} {units : List SourceUnit} :
    findUnit name units = none ↔ ∀ unit ∈ units, ¬unit.Bears name := by
  simp only [findUnit, List.find?_eq_none, SourceUnit.bears_iff]

theorem findUnit_eq_some_iff {name : String} {units : List SourceUnit} {unit : SourceUnit} :
    findUnit name units = some unit ↔ unit.Bears name ∧ ∃ earlier later,
      units = earlier ++ unit :: later ∧ ∀ other ∈ earlier, ¬other.Bears name := by
  simp only [findUnit, List.find?_eq_some_iff_append, SourceUnit.bears_iff, Bool.not_eq_true',
    ← Bool.not_eq_true]

theorem SourceUnit.pointed_qualifiedName {unit : SourceUnit} (packaged : unit.package ≠ "") :
    '.' ∈ unit.qualifiedName.toList := by
  simp [qualifiedName, qualify, packaged]

namespace Run

open Emit Scan

/-- What is found in a report under a name: nothing if no unit bears it, and the first unit that
bears it otherwise. A unit is found under its own qualified name if no earlier unit has that for its
simple name, as where all simple names are free of points and the unit has a package. -/
structure FindsUnits (report : Report) : Prop where
  missing_iff : ∀ name, report.unit? name = none ↔
    ∀ unit ∈ report.units, unit.name ≠ name ∧ unit.qualifiedName ≠ name
  first_iff : ∀ name unit, report.unit? name = some unit ↔ unit.Bears name ∧
    ∃ earlier later, report.units = earlier ++ unit :: later ∧
      ∀ other ∈ earlier, ¬other.Bears name
  qualified_iff : ∀ earlier unit later, report.units = earlier ++ unit :: later →
    (report.unit? unit.qualifiedName = some unit ↔
      ∀ other ∈ earlier, other.name ≠ unit.qualifiedName)
  packaged : ∀ unit ∈ report.units, unit.package ≠ "" →
    (∀ other ∈ report.units, '.' ∉ other.name.toList) →
      report.unit? unit.qualifiedName = some unit

/-- Where no two units have one qualified name, only a simple name of an earlier unit hides one. -/
theorem unit?_qualifiedName_iff {report : Report}
    (distinct : (report.units.map SourceUnit.qualifiedName).Nodup) {earlier later : List SourceUnit}
    {unit : SourceUnit} (placed : report.units = earlier ++ unit :: later) :
    report.unit? unit.qualifiedName = some unit ↔
      ∀ other ∈ earlier, other.name ≠ unit.qualifiedName := by
  rw [placed, List.map_append, List.map_cons, List.nodup_append] at distinct
  have apart : ∀ other ∈ earlier, other.qualifiedName ≠ unit.qualifiedName := by
    intro other inside
    exact distinct.2.2 _ (List.mem_map_of_mem inside) _ List.mem_cons_self
  constructor
  · intro found other inside same
    have hit : (findUnit unit.qualifiedName earlier).isSome := by
      rw [findUnit, List.find?_isSome]
      exact ⟨other, inside, (other.bears_iff _).mpr (.inl same)⟩
    obtain ⟨first, hides⟩ := Option.isSome_iff_exists.mp hit
    rw [Report.unit?, placed, findUnit, List.find?_append, ← findUnit, hides] at found
    cases found
    exact apart unit (List.mem_of_find?_eq_some hides) rfl
  · intro free
    refine findUnit_eq_some_iff.mpr ⟨.inr rfl, earlier, later, placed, ?_⟩
    rintro other inside (simple | qualified)
    · exact free other inside simple
    · exact apart other inside qualified

theorem run_findsUnits (generator : Generator) (inputs : List Input)
    (returned : (run generator toMemory inputs []).value.failure = none) :
    FindsUnits (run generator toMemory inputs []).value.report := by
  obtain ⟨deliveries, summary⟩ := run_summary returned
  have distinct := nodup_names_of_delivers summary.delivered List.nodup_nil
  rw [eq_append_of_delivers summary.delivered, ← summary.units, List.nil_append,
    names_entries] at distinct
  refine ⟨?missing, ?first, ?qualified, ?packaged⟩
  case missing =>
    intro name
    simp only [Report.unit?, findUnit_eq_none_iff, SourceUnit.Bears, not_or]
  case first => exact fun name unit => findUnit_eq_some_iff
  case qualified => exact fun earlier unit later placed => unit?_qualifiedName_iff distinct placed
  case packaged =>
    intro unit member packaged pointless
    obtain ⟨earlier, later, placed⟩ := List.append_of_mem member
    rw [unit?_qualifiedName_iff distinct placed]
    intro other inside same
    refine pointless other (by simp [placed, inside]) ?_
    rw [same]
    exact SourceUnit.pointed_qualifiedName packaged

def namesakes : List Input :=
  [.object [("package", .text "a"), ("name", .text "A")], .object [("name", .text "A")]].map
    .declaration

theorem units_namesakes :
    (run .standard toMemory namesakes []).value.failure = none ∧
      ∃ support mapper own : String, ∃ rest : List SourceUnit,
        (run .standard toMemory namesakes []).value.report.units =
          [⟨"a", "ADynamicSqlSupport", support⟩, ⟨"a", "AMyBatisDSLMapper", mapper⟩] ++
            ⟨"", "ADynamicSqlSupport", own⟩ :: rest := by
  obtain ⟨support, mapper, made⟩ := Generator.fieldless_ok "a" "A" (by decide)
  obtain ⟨own, further, next⟩ := Generator.fieldless_ok "" "A" (by decide)
  have supports : "A" ++ Generator.standard.settings.supportSuffix = "ADynamicSqlSupport" := by
    decide +kernel
  have mappers : "A" ++ Generator.standard.settings.mapperSuffix = "AMyBatisDSLMapper" := by
    decide +kernel
  rw [supports, mappers] at made next
  have generated : generatedUnits .standard namesakes =
      [⟨"a", "ADynamicSqlSupport", support⟩, ⟨"a", "AMyBatisDSLMapper", mapper⟩,
        ⟨"", "ADynamicSqlSupport", own⟩, ⟨"", "AMyBatisDSLMapper", further⟩] := by
    have here : unitsOf .standard (.declaration
        (.object [("package", .text "a"), ("name", .text "A")])) = _ := unitsOf_scanned rfl made
    have there : unitsOf .standard (.declaration (.object [("name", .text "A")])) = _ :=
      unitsOf_scanned rfl next
    simp [generatedUnits, namesakes, here, there]
  have returned : (run .standard toMemory namesakes []).value.failure = none := by
    rw [namesakes]
    exact standard_returns _ []
  have distinct : ["a.ADynamicSqlSupport", "a.AMyBatisDSLMapper", "ADynamicSqlSupport",
      "AMyBatisDSLMapper"].Nodup := by decide
  have unrefused := (unrefused_iff_distinct returned).mpr (generated ▸ distinct)
  have units := (units_of_unrefused returned unrefused).trans generated
  exact ⟨returned, support, mapper, own, _, units⟩

/-- Behind an earlier unit of its name, the first unit without a package is not found. -/
theorem run_findsUnits_namesakes :
    (run .standard toMemory namesakes []).value.failure = none ∧
      FindsUnits (run .standard toMemory namesakes []).value.report :=
  ⟨units_namesakes.1, run_findsUnits .standard namesakes units_namesakes.1⟩

/-- A unit that is stored but not found under its qualified name. -/
theorem run_findsUnits_hidden :
    ∃ unit ∈ (run .standard toMemory namesakes []).value.report.units,
      (run .standard toMemory namesakes []).value.report.unit? unit.qualifiedName ≠ some unit := by
  obtain ⟨returned, support, mapper, own, rest, units⟩ := units_namesakes
  refine ⟨⟨"", "ADynamicSqlSupport", own⟩, by simp [units], ?_⟩
  have found : (run .standard toMemory namesakes []).value.report.unit? "ADynamicSqlSupport" =
      some ⟨"a", "ADynamicSqlSupport", support⟩ := by
    rw [Report.unit?, units]
    rfl
  change (run .standard toMemory namesakes []).value.report.unit? "ADynamicSqlSupport" ≠ _
  rw [found]
  simp

end Run

end SqlScaffold
