import SqlScaffold.Proofs.Emit.Directory
import SqlScaffold.Proofs.Generator
import SqlScaffold.Proofs.Run.Completion
import SqlScaffold.Proofs.Units.Reading

/-!
Files behind a run. A unit that a run reports as stored can be read back when the run is over,
unless a later one went to the same place; then that place holds the last of them.
-/

namespace SqlScaffold.Run

open Emit Files Scan Source Text

variable {generator : Generator} {directory : Directory}

def SamePlace (tree : FileTree) (first second : Path) : Prop :=
  ∃ location, tree.locate first = .ok location ∧ tree.locate second = .ok location

theorem leaves_of_run {inputs : List Input} {tree : FileTree}
    (returned : (run generator (toDirectory directory) inputs tree).value.failure = none) :
    Leaves directory tree (run generator (toDirectory directory) inputs tree).value.report.units
      (run generator (toDirectory directory) inputs tree).value.state := by
  obtain ⟨deliveries, summary⟩ := run_summary returned
  rw [summary.units]
  exact leaves_of_delivers summary.delivered

theorem lastAt_of_split {tree : FileTree} {location : Location} {unit : SourceUnit}
    {earlier later : List SourceUnit} (leads : directory.leadsTo tree location unit)
    (others : ∀ other ∈ later, ¬directory.leadsTo tree location other) :
    directory.lastAt tree location (earlier ++ unit :: later) = some unit := by
  have elsewhere : later.filter (directory.leadsTo tree location) = [] :=
    List.filter_eq_nil_iff.mpr others
  simp [Directory.lastAt, List.filter_append, leads, elsewhere]

theorem read_of_lastAt {before after : FileTree} {units : List SourceUnit} {path : Path}
    {location : Location} {last : SourceUnit} (leaves : Leaves directory before units after)
    (located : after.locate path = .ok location)
    (found : directory.lastAt after location units = some last) :
    after.read path = .ok (.text last.body) := by
  refine FileTree.read_eq_ok_iff.mpr ⟨location, located, ?_⟩
  rw [leaves.contents location, found]

theorem lastAt_of_mem {tree : FileTree} {location : Location} {units : List SourceUnit}
    {unit : SourceUnit} (member : unit ∈ units) (leads : directory.leadsTo tree location unit) :
    ∃ last, directory.lastAt tree location units = some last := by
  cases found : directory.lastAt tree location units with
  | some last => exact ⟨last, rfl⟩
  | none =>
    have empty := List.getLast?_eq_none_iff.mp found
    exact absurd leads (List.filter_eq_nil_iff.mp empty unit member)

theorem split_of_lastAt {tree : FileTree} {location : Location} {units : List SourceUnit}
    {last : SourceUnit} (found : directory.lastAt tree location units = some last) :
    ∃ earlier later, units = earlier ++ last :: later ∧ directory.leadsTo tree location last ∧
      ∀ other ∈ later, ¬directory.leadsTo tree location other := by
  induction units with
  | nil => cases found
  | cons unit rest ih =>
    rw [Directory.lastAt_cons] at found
    cases behind : directory.lastAt tree location rest with
    | some further =>
      rw [behind] at found
      obtain ⟨earlier, later, rfl, leads, others⟩ := ih (behind.trans found)
      exact ⟨unit :: earlier, later, rfl, leads, others⟩
    | none =>
      rw [behind] at found
      by_cases leads : directory.leadsTo tree location unit
      · rw [if_pos leads] at found
        cases found
        exact ⟨[], rest, rfl, leads,
          List.filter_eq_nil_iff.mp (List.getLast?_eq_none_iff.mp behind)⟩
      · simp [leads] at found

/-- What can be read behind a run: a unit of the report, unless a later one went to the same place.
Then its place holds the last unit of the report that went there. -/
structure ReadsBack (directory : Directory) (outcome : Progress FileTree) : Prop where
  unreplaced : ∀ earlier unit later, outcome.report.units = earlier ++ unit :: later →
    (∀ other ∈ later,
      ¬SamePlace outcome.state (directory.pathOf unit) (directory.pathOf other)) →
    outcome.state.read (directory.pathOf unit) = .ok (.text unit.body)
  replaced : ∀ unit ∈ outcome.report.units, ∃ earlier last later,
    outcome.report.units = earlier ++ last :: later ∧
      SamePlace outcome.state (directory.pathOf unit) (directory.pathOf last) ∧
      (∀ other ∈ later,
        ¬SamePlace outcome.state (directory.pathOf unit) (directory.pathOf other)) ∧
      outcome.state.read (directory.pathOf unit) = .ok (.text last.body)

theorem run_readsBack (generator : Generator) (directory : Directory) (inputs : List Input)
    (tree : FileTree)
    (returned : (run generator (toDirectory directory) inputs tree).value.failure = none) :
    ReadsBack directory (run generator (toDirectory directory) inputs tree).value := by
  have leaves := leaves_of_run returned
  refine ⟨?unreplaced, ?replaced⟩
  case unreplaced =>
    intro earlier unit later same apart
    rw [same] at leaves
    obtain ⟨location, located⟩ := leaves.located unit (by simp)
    have others : ∀ other ∈ later, ¬directory.leadsTo
        (run generator (toDirectory directory) inputs tree).value.state location other := by
      intro other member leads
      exact apart other member ⟨location, located, Directory.leadsTo_iff.mp leads⟩
    exact read_of_lastAt leaves located
      (lastAt_of_split (Directory.leadsTo_iff.mpr located) others)
  case replaced =>
    intro unit member
    obtain ⟨location, located⟩ := leaves.located unit member
    have leads := Directory.leadsTo_iff.mpr located
    obtain ⟨last, found⟩ := lastAt_of_mem member leads
    obtain ⟨earlier, later, same, ends, others⟩ := split_of_lastAt found
    refine ⟨earlier, last, later, same, ⟨location, located, Directory.leadsTo_iff.mp ends⟩, ?_,
      read_of_lastAt leaves located found⟩
    rintro other behind ⟨place, here, there⟩
    cases located.symm.trans here
    exact others other behind (Directory.leadsTo_iff.mpr there)

theorem outFolder_takes_single {units : List SourceUnit} {call : FileTree × SourceUnit}
    (made : Generator.standard.units (Generator.fieldless "" "A" (by decide)) = .ok units)
    (member : call.2 ∈ unitsOf .standard (.declaration (.object [("name", .text "A")]))) :
    outFolder.Takes call.1 call.2 := by
  obtain ⟨package, support | mapper⟩ := named_of_unitsOf rfl made call.2 member
  · refine Directory.takes_of_short ?_ ?_ ?_ call.1 <;>
      rw [Directory.pathOf, package, support] <;> decide +kernel
  · refine Directory.takes_of_short ?_ ?_ ?_ call.1 <;>
      rw [Directory.pathOf, package, mapper] <;> decide +kernel

/-- The two units of one model go to different places. -/
theorem run_readsBack_single :
    (run .standard (toDirectory outFolder) [.declaration (.object [("name", .text "A")])]
      ⟨[], []⟩).value.failure = none ∧
      ReadsBack outFolder (run .standard (toDirectory outFolder)
        [.declaration (.object [("name", .text "A")])] ⟨[], []⟩).value := by
  obtain ⟨_, _, made⟩ := Generator.fieldless_ok "" "A" (by decide)
  have returned : (run .standard (toDirectory outFolder)
      [.declaration (.object [("name", .text "A")])] ⟨[], []⟩).value.failure = none := by
    refine (run_returns_iff _ _).mpr ⟨?passed, ?answered⟩
    case passed =>
      intro input member
      rw [List.mem_singleton.mp member]
      exact .generated rfl made
    case answered =>
      intro call member
      have inside := mem_of_mem_calls member
      simp only [generatedUnits, List.flatMap_singleton] at inside
      exact (toDirectory_answered_iff outFolder call.1 call.2).mpr
        (outFolder_takes_single made inside)
  exact ⟨returned, run_readsBack _ _ _ _ returned⟩

/-- One file cannot hold the bodies of two units that differ. -/
theorem unread_of_meeting (tree : FileTree) {units : List SourceUnit} {first second : SourceUnit}
    (listed : first ∈ units) (further : second ∈ units)
    (meet : directory.pathOf first = directory.pathOf second)
    (differ : first.body ≠ second.body) :
    ∃ unit ∈ units, tree.read (directory.pathOf unit) ≠ .ok (.text unit.body) := by
  by_cases intact : tree.read (directory.pathOf first) = .ok (.text first.body)
  · refine ⟨second, further, ?_⟩
    rw [← meet, intact]
    simpa using differ
  · exact ⟨first, listed, intact⟩

theorem letter_ne_empty : "A" ≠ "" := by decide

def tabledModel (table : String) : Model :=
  ⟨"", "A", [], some table, letter_ne_empty, List.nodup_nil⟩

theorem tabledModel_orderly {table : String} (unbroken : IsUnbroken table) :
    (tabledModel table).IsOrderly where
  package := by
    change ∀ segment ∈ splitAtChar '.' "", segment = "" ∨ isWord segment.toList
    decide
  name := by
    change isWord "A".toList
    decide
  field := by simp [tabledModel]
  type := by simp [tabledModel]
  table := by
    intro other given
    obtain rfl : table = other := Option.some.inj given
    exact unbroken

def declaredWith (table : String) : Input :=
  .declaration (.object [("name", .text "A"), ("table", .text table)])

theorem supports_ne {generator : Generator} (shipped : generator.library = .shipped)
    (suffixes : generator.settings.HasUnbrokenSuffixes) {table other : String}
    (unbroken : IsUnbroken table) (also : IsUnbroken other) (filled : table ≠ "")
    (further : other ≠ "") (differ : table ≠ other)
    {support mapper otherSupport otherMapper : SourceUnit}
    (made : generator.units (tabledModel table) = .ok [support, mapper])
    (others : generator.units (tabledModel other) = .ok [otherSupport, otherMapper]) :
    support.body ≠ otherSupport.body := by
  intro same
  have alike := Generator.sameSupport_of_body shipped suffixes (tabledModel_orderly unbroken)
    (tabledModel_orderly also) made others same
  have tables := alike.table
  simp only [Model.tableName, tabledModel] at tables
  simp [filled, further, differ] at tables

/-- All units of both declarations are on the report, but the first ones have been replaced. -/
theorem run_repeated_replaces :
    let outcome := (run .standard (toDirectory outFolder) [declaredWith "a", declaredWith "b"]
      ⟨[], []⟩).value
    outcome.failure = none ∧ ∃ unit ∈ outcome.report.units,
      outcome.state.read (outFolder.pathOf unit) ≠ .ok (.text unit.body) := by
  have ended : (run .standard (toDirectory outFolder) [declaredWith "a", declaredWith "b"]
        ⟨[], []⟩).value.failure = none ∧
      (run .standard (toDirectory outFolder) [declaredWith "a", declaredWith "b"]
        ⟨[], []⟩).value.report.isSuccess := by
    decide +kernel
  obtain ⟨support, _, made⟩ := Generator.standard_ok (tabledModel "a") (.of_named (by decide))
  obtain ⟨other, _, next⟩ := Generator.standard_ok (tabledModel "b") (.of_named (by decide))
  have first : unitsOf .standard (declaredWith "a") = _ := unitsOf_scanned rfl made
  have second : unitsOf .standard (declaredWith "b") = _ := unitsOf_scanned rfl next
  have all := units_of_isSuccess ended.1 ended.2
  simp only [generatedUnits, List.flatMap_cons, List.flatMap_nil, first, second] at all
  have differ := supports_ne rfl ⟨by decide, by decide, by decide⟩ (by decide) (by decide)
    (by decide) (by decide) (by decide) made next
  refine ⟨ended.1, ?_⟩
  generalize (run .standard (toDirectory outFolder) [declaredWith "a", declaredWith "b"]
    ⟨[], []⟩).value = outcome at all ⊢
  rw [all]
  refine unread_of_meeting outcome.state (List.mem_append_left _ List.mem_cons_self)
    (List.mem_append_right _ (List.mem_append_left _ List.mem_cons_self)) ?_ differ
  rfl

end SqlScaffold.Run
