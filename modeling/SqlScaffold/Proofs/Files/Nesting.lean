import SqlScaffold.Proofs.Files.Making

/-!
Trees in which whatever is there stands in a directory. Making directories and writing files keeps
a tree so. In such a tree a path leads to something only if there is a directory at each place on
the way; what is missing on the way to a file can only be left behind by going up again.
-/

namespace SqlScaffold.Files.FileTree

def HangsBelow (tree : FileTree) (location : Location) : Prop :=
  ∀ above part, location = above ++ [part] → tree.kind? above = some .directory

def IsNested (tree : FileTree) : Prop :=
  ∀ location, tree.kind? location ≠ none → tree.HangsBelow location

/-- At the end of some parts of the path nothing is there, and the path goes up again behind it. -/
def TurnsBack (tree : FileTree) (path : Path) : Prop :=
  ∃ above below place, path.parts = above ++ below ∧
    tree.walk (startOf path) above = .ok place ∧ tree.kind? place = none ∧ ".." ∈ below

theorem TurnsBack.up_mem {tree : FileTree} {path : Path} (turns : tree.TurnsBack path) :
    ".." ∈ path.parts := by
  obtain ⟨above, below, _, split, _, _, up⟩ := turns
  rw [split]
  exact List.mem_append_right above up

variable {tree after : FileTree} {path : Path} {location place : Location}

/-! Places that a walk reaches -/

theorem isOutside_startOf (path : Path) : isOutside (startOf path) := by
  unfold startOf
  split <;> decide

theorem kind?_of_isOutside (tree : FileTree) (outside : isOutside location) :
    tree.kind? location = some .directory := by
  simp [kind?, outside]

theorem HangsBelow.of_isOutside (tree : FileTree) (outside : isOutside location) :
    tree.HangsBelow location := by
  rintro above part rfl
  refine tree.kind?_of_isOutside ?_
  simp only [isOutside, Bool.or_eq_true, beq_iff_eq, List.all_eq_true] at outside ⊢
  rcases outside with root | up
  · have empty : above = [] := by
      simpa using congrArg List.length root
    simp [empty]
  · exact Or.inr fun part member => up part (List.mem_append_left _ member)

theorem hangsBelow_step (nested : tree.IsNested) (directory : tree.kind? location = some .directory)
    (part : String) : tree.HangsBelow (step location part) := by
  have hangs : tree.HangsBelow location := nested location (by simp [directory])
  have further : tree.HangsBelow (location ++ [part]) := by
    intro above last same
    rw [← (List.append_inj' same rfl).1]
    exact directory
  unfold step
  split
  · split
    · exact hangs
    · split
      · exact further
      · -- One step up from a directory in a directory.
        rcases List.eq_nil_or_concat location with rfl | ⟨above, last, rfl⟩
        · exact hangs
        · rw [List.concat_eq_append, List.dropLast_concat]
          have upper := hangs above last List.concat_eq_append
          exact nested above (by simp [upper])
  · exact further

theorem hangsBelow_of_walk (nested : tree.IsNested) {start : Location} {parts : List String}
    (hangs : tree.HangsBelow start) (reached : tree.walk start parts = .ok location) :
    tree.HangsBelow location := by
  induction parts generalizing start with
  | nil =>
    cases reached
    exact hangs
  | cons part rest ih =>
    unfold walk at reached
    split at reached
    · cases reached
    · cases reached
    · next directory =>
      split at reached
      · cases reached
      · exact ih (hangsBelow_step nested directory part) reached

theorem locate_eq_ok_iff :
    tree.locate path = .ok location ↔ ¬path.HasNull ∧ path.text.utf8ByteSize ≤ 4095 ∧
      tree.walk (startOf path) path.parts = .ok location := by
  by_cases null : path.HasNull
  · simp [locate_eq_null_iff.mpr null, null]
  · rw [locate_of_clean tree null]
    by_cases long : 4095 < path.text.utf8ByteSize
    · simp [long, Nat.not_le.mpr long]
    · simp [null, long, Nat.not_lt.mp long, Outcome.mapError_eq_ok_iff]

theorem hangsBelow_of_locate (nested : tree.IsNested) (located : tree.locate path = .ok location) :
    tree.HangsBelow location :=
  hangsBelow_of_walk nested (.of_isOutside tree (isOutside_startOf path))
    (locate_eq_ok_iff.mp located).2.2

/-! Trees that stay nested -/

theorem IsNested.of_extends (nested : tree.IsNested) (kinds : Extends tree after)
    (new : ∀ other, after.kind? other ≠ none →
      tree.kind? other ≠ none ∨ tree.HangsBelow other) : after.IsNested := by
  rintro other held above part rfl
  have hangs : tree.HangsBelow (above ++ [part]) := by
    rcases new _ held with old | hangs
    · exact nested _ old
    · exact hangs
  exact kinds above .directory (hangs above part rfl)

theorem makeDirectory_nested (nested : tree.IsNested) (made : tree.makeDirectory path = .ok after) :
    after.IsNested := by
  refine nested.of_extends (makeDirectory_grows made).kinds ?_
  obtain ⟨location, located, placed⟩ := Outcome.bind_eq_ok_iff.mp made
  cases free : tree.kind? location with
  | some kind => simp [free, refuse] at placed
  | none =>
    simp only [free, Except.ok.injEq] at placed
    subst placed
    intro other held
    rw [kind?_withDirectory] at held
    split at held
    · next same => exact Or.inr (same ▸ hangsBelow_of_locate nested located)
    · exact Or.inl held

theorem ensureDirectory_nested (nested : tree.IsNested)
    (made : tree.ensureDirectory path = .ok after) : after.IsNested := by
  unfold ensureDirectory at made
  split at made
  · next placed =>
    cases made
    exact makeDirectory_nested nested placed
  · split at made
    · cases made
      exact nested
    · cases made

theorem ensureDirectories_nested (nested : tree.IsNested) (path : Path) :
    (tree.ensureDirectories path).1.IsNested := by
  fun_induction ensureDirectories tree path with
  | case1 path made placed => exact ensureDirectory_nested nested placed
  | case2 path error placed missing above failure failed ih => exact ih
  | case3 path error placed missing above done made again ih => exact ensureDirectory_nested ih again
  | case4 path error placed missing above done failure again ih => exact ih
  | case5 path error placed present => exact nested

theorem write_nested (nested : tree.IsNested) {content : Content}
    (written : tree.write path content = .ok after) : after.IsNested := by
  obtain ⟨location, located, free, rfl⟩ := put_of_write written
  obtain ⟨_, _, extended, _⟩ := write_spec written
  refine nested.of_extends extended fun other held => ?_
  rw [kind?_withFile content free] at held
  split at held
  · next same => exact Or.inr (same ▸ hangsBelow_of_locate nested located)
  · exact Or.inl held

theorem writeBelow_nested (nested : tree.IsNested) (path : Path) (content : Content) :
    (tree.writeBelow path content).1.IsNested := by
  have made := ensureDirectories_nested nested path.parent
  unfold writeBelow
  dsimp only
  split
  · exact made
  · split
    · next filled => exact write_nested made filled
    · exact made

theorem nested_empty : IsNested ⟨[], []⟩ := by
  intro location held
  refine .of_isOutside _ ?_
  by_contra inside
  simp [kind?, inside] at held

theorem nested_ofFiles (files : List (String × Content)) : (ofFiles files).IsNested := by
  unfold ofFiles
  exact List.foldlRecOn files _ nested_empty fun tree nested entry _ =>
    writeBelow_nested nested (Path.ofText entry.1) entry.2

/-! Paths that lead to something -/

theorem IsNested.kind?_above (nested : tree.IsNested) (above below : Location)
    (held : tree.kind? (above ++ below) ≠ none) : tree.kind? above ≠ none := by
  induction below using List.reverseRecOn with
  | nil => simpa using held
  | append_singleton below part ih =>
    rw [← List.append_assoc] at held
    have directory := nested _ held (above ++ below) part rfl
    exact ih (by simp [directory])

theorem Extends.walk_or_missing (extended : Extends tree after) {start : Location}
    {parts : List String} (reached : after.walk start parts = .ok location) :
    tree.walk start parts = .ok location ∨
      ∃ above below place, parts = above ++ below ∧ tree.walk start above = .ok place ∧
        tree.kind? place = none := by
  induction parts generalizing start with
  | nil => exact Or.inl reached
  | cons part rest ih =>
    cases held : tree.kind? start with
    | none => exact Or.inr ⟨[], part :: rest, start, rfl, rfl, held⟩
    | some kind =>
      have later := extended start kind held
      unfold FileTree.walk at reached
      rw [later] at reached
      cases kind with
      | file => cases reached
      | directory =>
        dsimp only at reached
        split at reached
        · cases reached
        · next fits =>
          rcases ih reached with walked | ⟨above, below, place, rfl, walked, missing⟩
          · left
            simp only [FileTree.walk, held, if_neg fits, walked]
          · refine Or.inr ⟨part :: above, below, place, rfl, ?_, missing⟩
            simp only [FileTree.walk, held, if_neg fits, walked]

/-- In a nested tree, a path that only leads to a file once directories are made goes up again behind
one of them. -/
theorem IsNested.turnsBack (nested : tree.IsNested) (extended : Extends tree after)
    (unheld : tree.holds path = .ok false) (located : after.locate path = .ok location)
    (there : tree.kind? location ≠ none) : tree.TurnsBack path := by
  obtain ⟨clean, short, reached⟩ := locate_eq_ok_iff.mp located
  rcases extended.walk_or_missing reached with walked | ⟨above, below, place, split, walked, missing⟩
  · -- The path leads to the file at once, so the file is seen there.
    have seen := locate_eq_ok_iff.mpr ⟨clean, short, walked⟩
    simp [holds, seen, there] at unheld
  · refine ⟨above, below, place, split, walked, missing, ?_⟩
    by_contra down
    -- Without a way up, the file would stand below a place at which nothing is.
    have onward := extended.walk walked
    rw [split, walk_append, onward] at reached
    have same : location = place ++ below :=
      eq_append_of_walk reached fun part member up => down (up ▸ member)
    exact nested.kind?_above place below (same ▸ there) missing

end SqlScaffold.Files.FileTree
