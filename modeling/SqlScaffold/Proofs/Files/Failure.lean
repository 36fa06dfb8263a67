import SqlScaffold.Proofs.Files.FileTree
import SqlScaffold.Proofs.Text.Lines

/-!
How operations on a file tree fail. A path with a null character is none at all, and looking for a
name that is too long fails at once; every other failure is one of the system's answers.
-/

namespace SqlScaffold

namespace Files

def Path.HasNull (path : Path) : Prop := ∃ part ∈ path.parts, '\x00' ∈ part.toList

theorem Path.contains_null_iff (path : Path) :
    path.text.toList.contains '\x00' = true ↔ path.HasNull := by
  obtain ⟨anchor, parts⟩ := path
  have plain : '\x00' ∉ (Path.anchorText anchor).toList := by
    cases anchor <;> decide
  have joined := Text.mem_joinWith "/" '\x00' (by decide) parts
  rw [List.contains_iff_mem, Path.HasNull, ← joined, Path.text]
  split
  · next empty =>
    obtain ⟨_, rfl⟩ := empty
    decide
  · simp [plain]

instance (path : Path) : Decidable path.HasNull :=
  decidable_of_iff _ path.contains_null_iff

theorem Path.HasNull.of_parent {path : Path} (null : path.parent.HasNull) : path.HasNull := by
  obtain ⟨part, member, inside⟩ := null
  exact ⟨part, List.dropLast_subset _ member, inside⟩

namespace FileTree

def startOf (path : Path) : Location := if path.anchor = .current then [] else ["/"]

/-- The path as a whole is too long, or a name is that is looked for in a directory. -/
def TooLong (tree : FileTree) (path : Path) : Prop :=
  4095 < path.text.utf8ByteSize ∨
    ∃ above name below location, path.parts = above ++ name :: below ∧
      tree.walk (startOf path) above = .ok location ∧ tree.kind? location = some .directory ∧
      255 < name.utf8ByteSize

theorem not_tooLong {path : Path} (short : ∀ part ∈ path.parts, part.utf8ByteSize ≤ 255)
    (whole : path.text.utf8ByteSize ≤ 4095) (tree : FileTree) : ¬tree.TooLong path := by
  rintro (long | ⟨above, name, below, _, split, _, _, long⟩)
  · omega
  · have inside : name ∈ path.parts := by simp [split]
    have bound := short name inside
    omega

theorem walk_outside {tree : FileTree} {start : Location}
    (outside : tree.kind? start ≠ some .directory) (part : String) (rest : List String) :
    tree.walk start (part :: rest) ≠ .error .nameTooLong ∧
      ∀ location, tree.walk start (part :: rest) ≠ .ok location := by
  unfold walk
  split
  · exact ⟨by simp, by simp⟩
  · exact ⟨by simp, by simp⟩
  · next directory => exact absurd directory outside

theorem walk_eq_nameTooLong_iff {tree : FileTree} {parts : List String} {start : Location} :
    tree.walk start parts = .error .nameTooLong ↔
      ∃ above name below location, parts = above ++ name :: below ∧
        tree.walk start above = .ok location ∧ tree.kind? location = some .directory ∧
        255 < name.utf8ByteSize := by
  induction parts generalizing start with
  | nil => simp [walk]
  | cons part rest ih =>
    by_cases inside : tree.kind? start = some .directory
    · by_cases long : 255 < part.utf8ByteSize
      · simp only [walk, inside, if_pos long, true_iff]
        exact ⟨[], part, rest, start, rfl, rfl, inside, long⟩
      · simp only [walk, inside, if_neg long, ih]
        constructor
        · rintro ⟨above, name, below, location, rfl, reached, held, tooLong⟩
          refine ⟨part :: above, name, below, location, rfl, ?_, held, tooLong⟩
          simpa only [walk, inside, if_neg long] using reached
        · rintro ⟨above, name, below, location, same, reached, held, tooLong⟩
          cases above with
          | nil =>
            obtain ⟨rfl, rfl⟩ := List.cons.inj same
            exact absurd tooLong long
          | cons first above =>
            obtain ⟨rfl, rfl⟩ := List.cons.inj same
            simp only [walk, inside, if_neg long] at reached
            exact ⟨above, name, below, location, rfl, reached, held, tooLong⟩
    · refine iff_of_false (walk_outside inside part rest).1 ?_
      rintro ⟨above, name, below, location, same, reached, held, _⟩
      cases above with
      | nil =>
        cases reached
        exact inside held
      | cons first above =>
        obtain ⟨rfl, rfl⟩ := List.cons.inj same
        exact (walk_outside inside part above).2 location reached

theorem locate_eq_null_iff {tree : FileTree} {path : Path} :
    tree.locate path = .error .nullCharacter ↔ path.HasNull := by
  rw [← path.contains_null_iff, locate]
  split
  · next null => simpa using null
  · next clean =>
    simp only [clean, Bool.false_eq_true, iff_false]
    split
    · simp
    · intro failed
      obtain ⟨problem, _, other⟩ := Outcome.mapError_eq_error_iff.mp failed
      cases other

theorem locate_of_clean (tree : FileTree) {path : Path} (clean : ¬path.HasNull) :
    tree.locate path =
      if 4095 < path.text.utf8ByteSize then .error (.system ⟨.nameTooLong, path.text⟩)
      else (tree.walk (startOf path) path.parts).mapError
        fun problem => .system ⟨problem, path.text⟩ := by
  rw [locate, if_neg (mt path.contains_null_iff.mp clean)]
  rfl

theorem locate_eq_nameTooLong_iff {tree : FileTree} {path : Path} :
    (∃ error : SystemError, tree.locate path = .error (.system error) ∧
      error.problem = .nameTooLong) ↔ ¬path.HasNull ∧ tree.TooLong path := by
  by_cases null : path.HasNull
  · simp [locate_eq_null_iff.mpr null, null]
  · simp only [null, not_false_eq_true, true_and, locate_of_clean tree null, TooLong,
      ← walk_eq_nameTooLong_iff]
    by_cases long : 4095 < path.text.utf8ByteSize
    · simp [long]
    · simp only [long, false_or]
      constructor
      · rintro ⟨error, failed, same⟩
        obtain ⟨problem, walked, made⟩ := Outcome.mapError_eq_error_iff.mp failed
        cases made
        exact same ▸ walked
      · intro walked
        exact ⟨⟨.nameTooLong, path.text⟩, Outcome.mapError_eq_error_iff.mpr ⟨_, walked, rfl⟩, rfl⟩

/-- Looking whether something is at a path fails only at names that are too long. -/
theorem holds_eq_error_iff (tree : FileTree) (path : Path) :
    (∃ error, tree.holds path = .error error) ↔ ¬path.HasNull ∧ tree.TooLong path := by
  rw [← locate_eq_nameTooLong_iff, holds]
  cases located : tree.locate path with
  | ok location => simp
  | error failure =>
    cases failure with
    | nullCharacter => simp
    | system error =>
      by_cases long : error.problem = .nameTooLong
      · simp [long]
      · simp [long]

/-- A path is looked up unless a name is too long; one with a null character leads nowhere. -/
theorem askable_of_holds {tree : FileTree} {path : Path} {found : Bool}
    (held : tree.holds path = .ok found) : ¬(¬path.HasNull ∧ tree.TooLong path) := by
  intro long
  obtain ⟨error, failed⟩ := (tree.holds_eq_error_iff path).mpr long
  rw [held] at failed
  cases failed

theorem holds_of_null {tree : FileTree} {path : Path} (null : path.HasNull) :
    tree.holds path = .ok false := by
  simp [holds, locate_eq_null_iff.mpr null]

theorem clean_of_holds {tree : FileTree} {path : Path} (held : tree.holds path = .ok true) :
    ¬path.HasNull := by
  intro null
  cases held.symm.trans (holds_of_null null)

theorem write_of_null {tree : FileTree} {path : Path} (null : path.HasNull) (content : Content) :
    tree.write path content = .error .nullCharacter := by
  simp [write, locate_eq_null_iff.mpr null, bind, Except.bind]

theorem system_of_locate {tree : FileTree} {path : Path} {error : AccessError}
    (clean : ¬path.HasNull) (failed : tree.locate path = .error error) :
    ∃ cause, error = .system cause := by
  cases error with
  | system cause => exact ⟨cause, rfl⟩
  | nullCharacter => exact absurd (locate_eq_null_iff.mp failed) clean

/-- What is done with the place of a path fails as its search does, or for a cause of its own. -/
theorem system_of_located {α : Type} {tree : FileTree} {path : Path} {error : AccessError}
    {act : Location → Except AccessError α} (clean : ¬path.HasNull)
    (failed : tree.locate path >>= act = .error error)
    (acts : ∀ location, act location = .error error → ∃ cause, error = .system cause) :
    ∃ cause, error = .system cause := by
  cases located : tree.locate path with
  | error other =>
    rw [located] at failed
    cases failed
    exact system_of_locate clean located
  | ok location =>
    rw [located] at failed
    exact acts location failed

theorem system_of_write {tree : FileTree} {path : Path} {content : Content} {error : AccessError}
    (clean : ¬path.HasNull) (failed : tree.write path content = .error error) :
    ∃ cause, error = .system cause := by
  refine system_of_located clean failed fun location refused => ?_
  split at refused
  · cases refused
    exact ⟨_, rfl⟩
  · cases refused

theorem system_of_read {tree : FileTree} {path : Path} {error : AccessError}
    (clean : ¬path.HasNull) (failed : tree.read path = .error error) :
    ∃ cause, error = .system cause := by
  refine system_of_located clean failed fun location refused => ?_
  split at refused
  · cases refused
    exact ⟨_, rfl⟩
  · split at refused
    · cases refused
    · cases refused
      exact ⟨_, rfl⟩

theorem holds_of_read {tree : FileTree} {path : Path} {content : Content}
    (opened : tree.read path = .ok content) : tree.holds path = .ok true := by
  obtain ⟨location, located, held⟩ := read_eq_ok_iff.mp opened
  simp [holds, located, file_of_content? held]

theorem system_of_ensureDirectory {tree : FileTree} {path : Path} {error : AccessError}
    (clean : ¬path.HasNull) (failed : tree.ensureDirectory path = .error error) :
    ∃ cause, error = .system cause := by
  unfold ensureDirectory at failed
  split at failed
  · cases failed
  · next other made =>
    split at failed
    · cases failed
    · cases failed
      unfold makeDirectory at made
      cases located : tree.locate path with
      | error cause =>
        rw [located] at made
        cases made
        exact system_of_locate clean located
      | ok location =>
        rw [located] at made
        simp only [bind, Except.bind] at made
        split at made
        · cases made
          exact ⟨_, rfl⟩
        · cases made

theorem system_of_ensureDirectories {tree : FileTree} {path : Path} {error : AccessError}
    (clean : ¬path.HasNull) (failed : (tree.ensureDirectories path).2 = some error) :
    ∃ cause, error = .system cause := by
  fun_induction ensureDirectories tree path with
  | case1 path made placed => cases failed
  | case2 path first placed missing above failure above_failed ih =>
    exact ih (fun null => clean null.of_parent) (above_failed.trans failed)
  | case3 path first placed missing above done made again ih => cases failed
  | case4 path first placed missing above done failure again ih =>
    cases failed
    exact system_of_ensureDirectory clean again
  | case5 path first placed present =>
    cases failed
    exact system_of_ensureDirectory clean placed

end FileTree

end Files

end SqlScaffold
