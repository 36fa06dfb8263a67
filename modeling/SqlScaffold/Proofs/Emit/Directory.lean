import SqlScaffold.Proofs.Emit.Delivery
import SqlScaffold.Proofs.Files.Failure

/-!
Units below a directory: what an emission changes in the file tree, and when it is answered. A unit
that is stored can be read back, and no other file changes; a unit that is not stored changes no
file at all.
-/

namespace SqlScaffold.Emit

open Files FileTree

def Directory.pathOf (directory : Directory) (unit : SourceUnit) : Path :=
  directory.pathFor unit.package unit.name

def outFolder : Directory := { root := Path.ofText "out" }

structure Stores (before after : FileTree) (path : Path) (body : String) (location : Location) :
    Prop where
  located : after.locate path = .ok location
  kinds : Extends before after
  content : after.content? location = some (.text body)
  others : ∀ other, other ≠ location → after.content? other = before.content? other

theorem writeFile_stores {tree : FileTree} {path : Path} {body : String} {written : Option Path}
    (stored : (writeFile tree path body).outcome.value = .ok written) :
    ∃ location, Stores tree (writeFile tree path body).state path body location := by
  have grown := ensureDirectories_grows tree path.parent
  unfold writeFile at stored ⊢
  dsimp only at stored ⊢
  split at stored
  · cases stored
  · split at stored
    · cases stored
    · next after filled =>
      obtain ⟨location, located, kinds, content, others⟩ := write_spec filled
      refine ⟨location, kinds.locate located, grown.kinds.trans kinds, content, ?_⟩
      intro other different
      exact (others other different).trans (grown.contents other)

theorem writeFile_grows {tree : FileTree} {path : Path} {body : String}
    {failure : EmissionFailure}
    (failed : (writeFile tree path body).outcome.value = .error failure) :
    Grows tree (writeFile tree path body).state := by
  have grown := ensureDirectories_grows tree path.parent
  unfold writeFile at failed ⊢
  dsimp only at failed ⊢
  split at failed
  · exact grown
  · split at failed
    · exact grown
    · cases failed

theorem toDirectory_stores {directory : Directory} {tree : FileTree} {unit : SourceUnit}
    {written : Option Path}
    (stored : (toDirectory directory tree unit).outcome.value = .ok written) :
    ∃ location, Stores tree (toDirectory directory tree unit).state (directory.pathOf unit)
      unit.body location := by
  unfold toDirectory at stored ⊢
  dsimp only at stored ⊢
  split at stored
  · cases stored
  · split at stored
    · cases stored
    · next free =>
      rw [if_neg free]
      exact writeFile_stores stored

theorem toDirectory_grows {directory : Directory} {tree : FileTree} {unit : SourceUnit}
    {failure : EmissionFailure}
    (failed : (toDirectory directory tree unit).outcome.value = .error failure) :
    Grows tree (toDirectory directory tree unit).state := by
  unfold toDirectory at failed ⊢
  dsimp only at failed ⊢
  split at failed
  · exact .refl tree
  · split at failed
    · next present =>
      rw [if_pos present]
      exact .refl tree
    · next free =>
      rw [if_neg free]
      exact writeFile_grows failed

def Directory.leadsTo (directory : Directory) (tree : FileTree) (location : Location)
    (unit : SourceUnit) : Bool :=
  match tree.locate (directory.pathOf unit) with
  | .ok place => place == location
  | .error _ => false

theorem Directory.leadsTo_iff {directory : Directory} {tree : FileTree} {location : Location}
    {unit : SourceUnit} :
    directory.leadsTo tree location unit ↔ tree.locate (directory.pathOf unit) = .ok location := by
  unfold Directory.leadsTo
  cases tree.locate (directory.pathOf unit) with
  | ok place => simp
  | error error => simp

def Directory.lastAt (directory : Directory) (tree : FileTree) (location : Location)
    (units : List SourceUnit) : Option SourceUnit :=
  (units.filter (directory.leadsTo tree location)).getLast?

theorem Directory.lastAt_cons (directory : Directory) (tree : FileTree) (location : Location)
    (unit : SourceUnit) (rest : List SourceUnit) :
    directory.lastAt tree location (unit :: rest) =
      match directory.lastAt tree location rest with
      | some last => some last
      | none => if directory.leadsTo tree location unit then some unit else none := by
  unfold Directory.lastAt
  cases leads : directory.leadsTo tree location unit with
  | false =>
    cases held : (rest.filter (directory.leadsTo tree location)).getLast? with
    | some last => simp [leads, held]
    | none => simp [leads, held]
  | true =>
    cases held : (rest.filter (directory.leadsTo tree location)).getLast? with
    | some last => simp [leads, List.getLast?_cons, held]
    | none => simp [leads, List.getLast?_cons, held]

structure Leaves (directory : Directory) (before : FileTree) (units : List SourceUnit)
    (after : FileTree) : Prop where
  kinds : Extends before after
  located : ∀ unit ∈ units, ∃ location, after.locate (directory.pathOf unit) = .ok location
  contents : ∀ location, after.content? location =
    match directory.lastAt after location units with
    | some unit => some (.text unit.body)
    | none => before.content? location

theorem Directory.lastAt_cons_of_leadsTo {directory : Directory} {tree : FileTree}
    {location place : Location} {unit : SourceUnit}
    (here : tree.locate (directory.pathOf unit) = .ok place) (rest : List SourceUnit) :
    directory.lastAt tree location (unit :: rest) =
      match directory.lastAt tree location rest with
      | some last => some last
      | none => if location = place then some unit else none := by
  have leads : directory.leadsTo tree location unit = true ↔ location = place := by
    rw [Directory.leadsTo_iff, here, Except.ok.injEq, eq_comm]
  rw [Directory.lastAt_cons]
  simp only [leads]

theorem Leaves.cons {directory : Directory} {before middle after : FileTree} {unit : SourceUnit}
    {rest : List SourceUnit} {place : Location}
    (step : Stores before middle (directory.pathOf unit) unit.body place)
    (left : Leaves directory middle rest after) : Leaves directory before (unit :: rest) after where
  kinds := step.kinds.trans left.kinds
  located := by
    intro other member
    rcases List.mem_cons.mp member with rfl | later
    · exact ⟨place, left.kinds.locate step.located⟩
    · exact left.located other later
  contents := by
    intro location
    rw [Directory.lastAt_cons_of_leadsTo (left.kinds.locate step.located), left.contents location]
    cases directory.lastAt after location rest with
    | some last => rfl
    | none =>
      by_cases same : location = place
      · simpa [same] using step.content
      · simpa [same] using step.others location same

theorem leaves_of_delivers {directory : Directory} {before after : FileTree}
    {deliveries : List Delivery}
    (delivered : Delivers (toDirectory directory) before deliveries after) :
    Leaves directory before (storedUnits deliveries) after := by
  induction delivered with
  | nil tree => exact ⟨.refl tree, by simp [storedUnits], fun _ => rfl⟩
  | stored accepted _ ih =>
    obtain ⟨place, step⟩ := toDirectory_stores accepted
    exact ih.cons step
  | refused refusal _ ih =>
    have step := toDirectory_grows refusal
    refine ⟨step.kinds.trans ih.kinds, ih.located, ?_⟩
    intro location
    refine (ih.contents location).trans ?_
    rw [step.contents location]
    rfl

/-- When a folder answers: no name on the way to the unit is too long, and a null character stands
in nothing but the name of the file, whose directory cannot be made. -/
def Directory.Takes (directory : Directory) (tree : FileTree) (unit : SourceUnit) : Prop :=
  let path := directory.pathOf unit
  (¬path.HasNull ∧ ¬tree.TooLong path) ∨
    (path.HasNull ∧ ∃ error, (tree.ensureDirectories path.parent).2 = some (.system error))

theorem Directory.takes_of_short {directory : Directory} {unit : SourceUnit}
    (clean : ¬(directory.pathOf unit).HasNull)
    (short : ∀ part ∈ (directory.pathOf unit).parts, part.utf8ByteSize ≤ 255)
    (whole : (directory.pathOf unit).text.utf8ByteSize ≤ 4095) (tree : FileTree) :
    directory.Takes tree unit :=
  Or.inl ⟨clean, not_tooLong short whole tree⟩

theorem writeFile_answered_of_clean {tree : FileTree} {path : Path} (body : String)
    (clean : ¬path.HasNull) : (writeFile tree path body).Answered := by
  unfold writeFile
  dsimp only
  split
  · next error made =>
    obtain ⟨cause, rfl⟩ := system_of_ensureDirectories (fun null => clean null.of_parent) made
    simp [writeFailure]
  · split
    · next error unfilled =>
      obtain ⟨cause, rfl⟩ := system_of_write clean unfilled
      simp [writeFailure]
    · exact Or.inl ⟨_, rfl⟩

theorem writeFile_answered_iff_of_null {tree : FileTree} {path : Path} (body : String)
    (null : path.HasNull) :
    (writeFile tree path body).Answered ↔
      ∃ error, (tree.ensureDirectories path.parent).2 = some (.system error) := by
  unfold writeFile
  dsimp only
  split
  · next error made =>
    rw [made]
    cases error with
    | system cause => simp [writeFailure]
    | nullCharacter => simp [writeFailure]
  · next made =>
    rw [write_of_null null]
    simp [made, writeFailure]

theorem toDirectory_answered_iff (directory : Directory) (tree : FileTree) (unit : SourceUnit) :
    (toDirectory directory tree unit).Answered ↔ directory.Takes tree unit := by
  unfold toDirectory Directory.Takes Directory.pathOf
  dsimp only
  generalize directory.pathFor unit.package unit.name = path
  by_cases null : path.HasNull
  · rw [holds_of_null null]
    simpa [null] using writeFile_answered_iff_of_null unit.body null
  · have long := holds_eq_error_iff tree path
    simp only [null, not_false_eq_true, true_and, false_and, or_false] at long ⊢
    cases held : tree.holds path with
    | error error =>
      rw [← long]
      simp [held]
    | ok found =>
      rw [← long]
      simp only [held, reduceCtorEq, exists_false, not_false_eq_true, iff_true]
      split
      · simp
      · exact writeFile_answered_of_clean unit.body null

end SqlScaffold.Emit
