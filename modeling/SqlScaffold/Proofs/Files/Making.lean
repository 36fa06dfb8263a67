import Mathlib.Data.List.Induction
import SqlScaffold.Proofs.Files.Failure

/-!
Directories that are made, for files to be written in them. Where a directory can be made, so can
any below it, unless a file stands in the way; nothing but the directories on the way is new.
-/

namespace SqlScaffold

namespace Files

def Path.below (path : Path) (parts : List String) : Path := ⟨path.anchor, path.parts ++ parts⟩

@[simp] theorem Path.below_nil (path : Path) : path.below [] = path := by
  simp [Path.below]

theorem Path.below_append (path : Path) (first second : List String) :
    path.below (first ++ second) = (path.below first).below second := by
  simp [Path.below]

@[simp] theorem Path.parent_below (path : Path) (part : String) :
    (path.below [part]).parent = path := by
  simp [Path.below, Path.parent]

structure Path.IsShort (path : Path) : Prop where
  clean : ¬path.HasNull
  parts : ∀ part ∈ path.parts, part.utf8ByteSize ≤ 255
  whole : path.text.utf8ByteSize ≤ 4095

instance (path : Path) : Decidable path.IsShort :=
  decidable_of_iff (¬path.HasNull ∧ (∀ part ∈ path.parts, part.utf8ByteSize ≤ 255) ∧
      path.text.utf8ByteSize ≤ 4095)
    ⟨fun ⟨clean, parts, whole⟩ => ⟨clean, parts, whole⟩,
      fun short => ⟨short.clean, short.parts, short.whole⟩⟩

theorem Path.IsShort.of_below {path : Path} {parts : List String}
    (short : (path.below parts).IsShort) : path.IsShort where
  clean := fun ⟨part, member, null⟩ =>
    short.clean ⟨part, List.mem_append_left _ member, null⟩
  parts := fun part member => short.parts part (List.mem_append_left _ member)
  whole := by
    have long := short.whole
    unfold Path.text at long ⊢
    by_cases point : path.anchor = .current ∧ path.parts = []
    · rw [if_pos point]
      decide
    · have further : ¬((path.below parts).anchor = .current ∧ (path.below parts).parts = []) :=
        fun both => point ⟨both.1, (List.append_eq_nil_iff.mp both.2).1⟩
      have grown := Text.size_joinWith_append "/" path.parts parts
      rw [if_neg further, String.utf8ByteSize_append] at long
      rw [if_neg point, String.utf8ByteSize_append]
      dsimp only [Path.below] at long
      omega

namespace FileTree

variable {tree : FileTree} {path : Path} {place : Location} {part : String}

theorem walk_append (tree : FileTree) (start : Location) (above below : List String) :
    tree.walk start (above ++ below) =
      (tree.walk start above).bind fun location => tree.walk location below := by
  induction above generalizing start with
  | nil => rfl
  | cons part rest ih =>
    simp only [List.cons_append, walk]
    cases tree.kind? start with
    | none => rfl
    | some kind =>
      cases kind with
      | file => rfl
      | directory =>
        dsimp only
        split
        · rfl
        · exact ih _

theorem walk_below (tree : FileTree) (path : Path) (parts : List String) :
    tree.walk (startOf (path.below parts)) (path.below parts).parts =
      (tree.walk (startOf path) path.parts).bind fun location => tree.walk location parts :=
  tree.walk_append (startOf path) path.parts parts

theorem eq_append_of_walk {start location : Location} {parts : List String}
    (reached : tree.walk start parts = .ok location) (down : ∀ part ∈ parts, part ≠ "..") :
    location = start ++ parts := by
  induction parts generalizing start with
  | nil => simpa [walk, eq_comm] using reached
  | cons part rest ih =>
    unfold walk at reached
    split at reached
    · cases reached
    · cases reached
    · split at reached
      · cases reached
      · have later := ih reached fun other member => down other (List.mem_cons_of_mem part member)
        simpa [step, down part List.mem_cons_self] using later

theorem locate_of_short (tree : FileTree) (short : path.IsShort) :
    tree.locate path = (tree.walk (startOf path) path.parts).mapError
      fun problem => .system ⟨problem, path.text⟩ := by
  rw [locate_of_clean tree short.clean, if_neg (Nat.not_lt.mpr short.whole)]

theorem walk_of_locate (short : path.IsShort) (located : tree.locate path = .ok place) :
    tree.walk (startOf path) path.parts = .ok place := by
  rw [locate_of_short tree short] at located
  exact Outcome.mapError_eq_ok_iff.mp located

theorem locate_below_eq {parts : List String} (tree : FileTree)
    (short : (path.below parts).IsShort) :
    tree.locate (path.below parts) =
      ((tree.walk (startOf path) path.parts).bind fun location => tree.walk location parts).mapError
        fun problem => .system ⟨problem, (path.below parts).text⟩ := by
  rw [locate_of_short tree short, walk_below]

theorem locate_below (short : (path.below [part]).IsShort) (down : part ≠ "..")
    (located : tree.locate path = .ok place) (directory : tree.kind? place = some .directory) :
    tree.locate (path.below [part]) = .ok (place ++ [part]) := by
  have fits : ¬255 < part.utf8ByteSize :=
    Nat.not_lt.mpr (short.parts part (List.mem_append_right _ List.mem_cons_self))
  rw [locate_below_eq tree short, walk_of_locate short.of_below located]
  simp [Except.bind, walk, directory, fits, step, down]

theorem locate_below_of_free (short : (path.below [part]).IsShort)
    (located : tree.locate path = .ok place) (free : tree.kind? place = none) :
    tree.locate (path.below [part]) = .error (.system ⟨.notFound, (path.below [part]).text⟩) := by
  rw [locate_below_eq tree short, walk_of_locate short.of_below located]
  simp [Except.bind, walk, free]

theorem locate_below_of_missing {error : AccessError} (short : (path.below [part]).IsShort)
    (failed : tree.locate path = .error error) (missing : isMissing error) :
    tree.locate (path.below [part]) = .error (.system ⟨.notFound, (path.below [part]).text⟩) := by
  rw [locate_of_short tree short.of_below] at failed
  obtain ⟨problem, walked, rfl⟩ := Outcome.mapError_eq_error_iff.mp failed
  have absent : problem = .notFound := by simpa [isMissing] using missing
  rw [locate_below_eq tree short, walked, absent]
  rfl

theorem ensureDirectory_of_directory (located : tree.locate path = .ok place)
    (directory : tree.kind? place = some .directory) : tree.ensureDirectory path = .ok tree := by
  simp [ensureDirectory, makeDirectory, isDirectory, located, directory, refuse, bind, Except.bind]

theorem ensureDirectory_of_free (located : tree.locate path = .ok place)
    (free : tree.kind? place = none) :
    tree.ensureDirectory path = .ok { tree with directories := tree.directories ++ [place] } := by
  simp [ensureDirectory, makeDirectory, located, free, bind, Except.bind]

theorem ensureDirectory_of_file (located : tree.locate path = .ok place)
    (file : tree.kind? place = some .file) :
    tree.ensureDirectory path = .error (.system ⟨.exists, path.text⟩) := by
  simp [ensureDirectory, makeDirectory, isDirectory, located, file, refuse, bind, Except.bind]

theorem ensureDirectory_of_unlocated {error : AccessError}
    (failed : tree.locate path = .error error) : tree.ensureDirectory path = .error error := by
  simp [ensureDirectory, makeDirectory, isDirectory, failed, bind, Except.bind]

structure Makes (tree : FileTree) (path : Path) (made : FileTree) (place : Location) : Prop where
  ensured : tree.ensureDirectories path = (made, none)
  located : made.locate path = .ok place
  directory : made.kind? place = some .directory

theorem ensureDirectory_ends {made : FileTree} (ensured : tree.ensureDirectory path = .ok made) :
    ∃ place, made.locate path = .ok place ∧ made.kind? place = some .directory := by
  have grown := ensureDirectory_grows ensured
  cases located : tree.locate path with
  | error error =>
    rw [ensureDirectory_of_unlocated located] at ensured
    cases ensured
  | ok place =>
    refine ⟨place, grown.kinds.locate located, ?_⟩
    cases held : tree.kind? place with
    | none =>
      rw [ensureDirectory_of_free located held] at ensured
      cases ensured
      rw [kind?_withDirectory, if_pos rfl]
    | some kind =>
      cases kind with
      | file =>
        rw [ensureDirectory_of_file located held] at ensured
        cases ensured
      | directory => exact grown.kinds place .directory held

theorem ensureDirectories_ends (ensured : (tree.ensureDirectories path).2 = none) :
    ∃ place, (tree.ensureDirectories path).1.locate path = .ok place ∧
      (tree.ensureDirectories path).1.kind? place = some .directory := by
  fun_induction ensureDirectories tree path with
  | case1 path made placed => exact ensureDirectory_ends placed
  | case2 path error placed missing above failure failed ih => cases ensured
  | case3 path error placed missing above done made again ih => exact ensureDirectory_ends again
  | case4 path error placed missing above done failure again ih => cases ensured
  | case5 path error placed present => cases ensured

theorem makes_of_ensureDirectories {made : FileTree}
    (ensured : tree.ensureDirectories path = (made, none)) :
    ∃ place, Makes tree path made place := by
  obtain ⟨place, located, directory⟩ := ensureDirectories_ends (congrArg Prod.snd ensured)
  rw [ensured] at located directory
  exact ⟨place, ensured, located, directory⟩

theorem Makes.grows {base : FileTree} (makes : Makes tree path base place) : Grows tree base := by
  have grown := ensureDirectories_grows tree path
  rwa [makes.ensured] at grown

theorem makes_of_directory (located : tree.locate path = .ok place)
    (directory : tree.kind? place = some .directory) : Makes tree path tree place where
  ensured := by rw [ensureDirectories, ensureDirectory_of_directory located directory]
  located := located
  directory := directory

variable {base : FileTree}

/-- Where a directory can be made, it is there, or what is missing shows below it. -/
theorem Makes.present_or_missing (makes : Makes tree path base place)
    (short : (path.below [part]).IsShort) :
    base = tree ∨
      tree.ensureDirectory (path.below [part]) =
        .error (.system ⟨.notFound, (path.below [part]).text⟩) := by
  have made := makes.ensured
  rw [ensureDirectories] at made
  cases located : tree.locate path with
  | ok place =>
    cases held : tree.kind? place with
    | none =>
      exact Or.inr (ensureDirectory_of_unlocated (locate_below_of_free short located held))
    | some kind =>
      cases kind with
      | file =>
        rw [ensureDirectory_of_file located held] at made
        simp [isMissing] at made
      | directory =>
        rw [ensureDirectory_of_directory located held] at made
        exact Or.inl (congrArg Prod.fst made).symm
  | error error =>
    by_cases missing : isMissing error
    · exact Or.inr (ensureDirectory_of_unlocated
        (locate_below_of_missing short located missing))
    · rw [ensureDirectory_of_unlocated located] at made
      simp [missing] at made

structure Opens (before after : FileTree) (place : Location) (parts : List String) : Prop where
  kinds : Extends before after
  files : ∀ other, after.kind? other = some .file ↔ before.kind? other = some .file
  directories : ∀ other, after.kind? other = some .directory →
    before.kind? other = some .directory ∨ ∃ above, above <+: parts ∧ other = place ++ above

theorem Opens.refl (tree : FileTree) {place : Location} {parts : List String} :
    Opens tree tree place parts where
  kinds := .refl tree
  files := fun _ => Iff.rfl
  directories := fun _ there => Or.inl there

theorem ensureDirectory_opens (located : tree.locate path = .ok (place ++ [part]))
    (free : tree.kind? (place ++ [part]) ≠ some .file) :
    ∃ next, tree.ensureDirectory path = .ok next ∧ Opens tree next place [part] := by
  cases held : tree.kind? (place ++ [part]) with
  | none =>
    have ensured := ensureDirectory_of_free located held
    refine ⟨_, ensured, (ensureDirectory_grows ensured).kinds, ?files, ?directories⟩
    case files =>
      intro other
      rw [kind?_withDirectory]
      by_cases same : other = place ++ [part]
      · simp [same, held]
      · rw [if_neg same]
    case directories =>
      intro other there
      rw [kind?_withDirectory] at there
      by_cases same : other = place ++ [part]
      · exact Or.inr ⟨[part], List.prefix_refl _, same⟩
      · rw [if_neg same] at there
        exact Or.inl there
  | some kind =>
    cases kind with
    | file => exact absurd held free
    | directory => exact ⟨tree, ensureDirectory_of_directory located held, .refl tree⟩

/-- The step: a directory in a directory that can be made. -/
theorem Makes.child (makes : Makes tree path base place) (short : (path.below [part]).IsShort)
    (down : part ≠ "..") (free : base.kind? (place ++ [part]) ≠ some .file) :
    ∃ next, Makes tree (path.below [part]) next (place ++ [part]) ∧
      Opens base next place [part] := by
  have located := locate_below short down makes.located makes.directory
  obtain ⟨next, ensured, opens⟩ := ensureDirectory_opens located free
  have made : tree.ensureDirectories (path.below [part]) = (next, none) := by
    rw [ensureDirectories]
    rcases makes.present_or_missing short with rfl | missing
    · rw [ensured]
    · -- The directories above are made first, by the same call as without the last part.
      have parts : (path.below [part]).parts.isEmpty = false := by simp [Path.below]
      simp [missing, isMissing, parts, makes.ensured, ensured]
  obtain ⟨reached, ends⟩ := makes_of_ensureDirectories made
  have same : reached = place ++ [part] :=
    Except.ok.inj (ends.located.symm.trans (opens.kinds.locate located))
  exact ⟨next, same ▸ ends, opens⟩

theorem Makes.below {parts : List String} (makes : Makes tree path base place)
    (short : (path.below parts).IsShort) (down : ∀ part ∈ parts, part ≠ "..")
    (free : ∀ above, above <+: parts → above ≠ [] → base.kind? (place ++ above) ≠ some .file) :
    ∃ next, Makes tree (path.below parts) next (place ++ parts) ∧ Opens base next place parts := by
  induction parts using List.reverseRecOn with
  | nil => exact ⟨base, by simpa using makes, .refl base⟩
  | append_singleton parts part ih =>
    rw [Path.below_append] at short
    obtain ⟨middle, reaches, opens⟩ := ih short.of_below
      (fun other member => down other (List.mem_append_left _ member))
      fun above begins => free above (begins.trans (List.prefix_append _ _))
    have unfiled : middle.kind? (place ++ parts ++ [part]) ≠ some .file := by
      rw [Ne, opens.files, List.append_assoc]
      exact free _ (List.prefix_refl _) (by simp)
    obtain ⟨next, makes, further⟩ := reaches.child short (down part (by simp)) unfiled
    rw [← Path.below_append, List.append_assoc] at makes
    refine ⟨next, makes, opens.kinds.trans further.kinds,
      fun other => (further.files other).trans (opens.files other), ?_⟩
    intro other there
    rcases further.directories other there with old | ⟨above, begins, rfl⟩
    · exact (opens.directories other old).imp_right fun ⟨above, begins, same⟩ =>
        ⟨above, begins.trans (List.prefix_append _ _), same⟩
    · refine Or.inr ⟨parts ++ above, ?_, List.append_assoc ..⟩
      exact List.prefix_append_right_inj parts |>.mpr begins

/-- The path can be made a directory, and then nothing stands below it. -/
def IsFresh (tree : FileTree) (path : Path) : Prop :=
  ∃ base place, Makes tree path base place ∧
    ∀ part rest, base.kind? (place ++ part :: rest) = none

theorem isFresh_of_free (short : path.IsShort) (down : ∀ part ∈ path.parts, part ≠ "..")
    (unfiled : ∀ above, above <+: path.parts → tree.kind? (startOf path ++ above) ≠ some .file)
    (empty : ∀ part rest, tree.kind? (startOf path ++ path.parts ++ part :: rest) = none) :
    tree.IsFresh path := by
  obtain ⟨anchor, parts⟩ := path
  have start : Makes tree ⟨anchor, []⟩ tree (startOf ⟨anchor, parts⟩) := by
    have whole : (Path.below ⟨anchor, []⟩ parts).IsShort := short
    refine makes_of_directory (by rw [locate_of_short tree whole.of_below]; rfl) ?_
    cases anchor <;> rfl
  obtain ⟨base, makes, opens⟩ := start.below short down fun above begins _ => unfiled above begins
  refine ⟨base, _, makes, ?_⟩
  intro part rest
  have free := empty part rest
  rw [Option.eq_none_iff_forall_ne_some]
  intro kind held
  cases kind with
  | file =>
    have file := (opens.files _).mp held
    exact absurd (free.symm.trans file) (by simp)
  | directory =>
    rcases opens.directories _ held with old | ⟨above, begins, same⟩
    · exact absurd (free.symm.trans old) (by simp)
    · -- What is made lies on the way, and this place lies behind its end.
      rw [List.append_assoc, List.append_cancel_left_eq] at same
      have length := begins.length_le
      rw [← same, List.length_append, List.length_cons] at length
      omega

theorem write_of_located (located : tree.locate path = .ok place)
    (undirected : tree.kind? place ≠ some .directory) (content : Content) :
    tree.write path content = .ok { tree with files := Keyed.put place content tree.files } := by
  unfold write
  rw [located]
  simp only [bind, Except.bind]

end FileTree

end Files

end SqlScaffold
