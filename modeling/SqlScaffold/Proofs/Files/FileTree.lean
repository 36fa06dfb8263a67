import Mathlib.Logic.Basic
import SqlScaffold.Files.FileTree
import SqlScaffold.Proofs.Outcome

/-!
What operations on a file tree change. A place that holds something goes on holding something of
the same kind, so a path that led to a place still does; making directories leaves all files as
they are, and writing changes one of them.
-/

namespace SqlScaffold.Files.FileTree

def content? (tree : FileTree) (location : Location) : Option Content :=
  if tree.kind? location = some .file then tree.files.lookup location else none

def Extends (before after : FileTree) : Prop :=
  ∀ location kind, before.kind? location = some kind → after.kind? location = some kind

/-- Directories were made in the first tree, and nothing else. -/
structure Grows (before after : FileTree) : Prop where
  kinds : Extends before after
  contents : ∀ location, after.content? location = before.content? location

theorem Extends.refl (tree : FileTree) : Extends tree tree := fun _ _ held => held

theorem Extends.trans {first second third : FileTree} (earlier : Extends first second)
    (later : Extends second third) : Extends first third :=
  fun location kind held => later location kind (earlier location kind held)

theorem Grows.refl (tree : FileTree) : Grows tree tree := ⟨.refl tree, fun _ => rfl⟩

theorem Grows.trans {first second third : FileTree} (earlier : Grows first second)
    (later : Grows second third) : Grows first third where
  kinds := earlier.kinds.trans later.kinds
  contents := fun location => (later.contents location).trans (earlier.contents location)

theorem Extends.walk {before after : FileTree} (extended : Extends before after)
    {parts : List String} {start location : Location}
    (reached : before.walk start parts = .ok location) : after.walk start parts = .ok location := by
  induction parts generalizing start with
  | nil => exact reached
  | cons part rest ih =>
    unfold FileTree.walk at reached ⊢
    cases held : before.kind? start with
    | none => simp [held] at reached
    | some kind =>
      rw [extended start kind held]
      cases kind with
      | file => simp [held] at reached
      | directory =>
        simp only [held] at reached ⊢
        split at reached
        · cases reached
        · next fits =>
          rw [if_neg fits]
          exact ih reached

theorem Extends.locate {before after : FileTree} (extended : Extends before after) {path : Path}
    {location : Location} (located : before.locate path = .ok location) :
    after.locate path = .ok location := by
  unfold FileTree.locate at located ⊢
  split at located
  · cases located
  · next clean =>
    rw [if_neg clean]
    split at located
    · cases located
    · next short =>
      rw [if_neg short]
      have walked := Outcome.mapError_eq_ok_iff.mp located
      exact Outcome.mapError_eq_ok_iff.mpr (extended.walk walked)

theorem file_of_content? {tree : FileTree} {location : Location} {content : Content}
    (held : tree.content? location = some content) : tree.kind? location = some .file := by
  unfold content? at held
  split at held
  · next file => exact file
  · cases held

theorem content?_of_free {tree : FileTree} {location : Location}
    (free : tree.kind? location = none) : tree.content? location = none := by
  simp [content?, free]

theorem content?_eq_some_iff {tree : FileTree} {location : Location} {content : Content} :
    tree.content? location = some content ↔
      tree.kind? location ≠ some .directory ∧ tree.files.lookup location = some content := by
  unfold content? kind?
  split
  · simp
  · split
    · simp
    · next missing =>
      simp only [Option.not_isSome_iff_eq_none] at missing
      simp [missing]

theorem read_eq_ok_iff {tree : FileTree} {path : Path} {content : Content} :
    tree.read path = .ok content ↔
      ∃ location, tree.locate path = .ok location ∧ tree.content? location = some content := by
  unfold FileTree.read
  rw [Outcome.bind_eq_ok_iff]
  refine exists_congr fun location => and_congr_right fun _ => ?_
  rw [content?_eq_some_iff]
  split
  · next directory => simp [refuse, directory]
  · next other =>
    have undirected : tree.kind? location ≠ some .directory := other
    cases tree.files.lookup location with
    | none => simp [refuse]
    | some held => simp [undirected]

theorem kind?_withDirectory (tree : FileTree) (location other : Location) :
    kind? { tree with directories := tree.directories ++ [location] } other =
      if other = location then some .directory else tree.kind? other := by
  by_cases same : other = location
  · simp [kind?, same]
  · simp [kind?, same]

/-- Putting a value changes what is found, whichever lawful equality is used for the search. -/
theorem lookup_put {κ ν : Type} [DecidableEq κ] [equality : BEq κ] [LawfulBEq κ] (key other : κ)
    (value : ν) (entries : List (κ × ν)) :
    (Keyed.put key value entries).lookup other =
      if other = key then some value else entries.lookup other := by
  have same : instBEqOfDecidableEq = equality := lawful_beq_subsingleton _ _
  have put := Keyed.lookup_put key other value entries
  rw [same] at put
  exact put

theorem kind?_withFile {tree : FileTree} {location : Location} (content : Content)
    (free : tree.kind? location ≠ some .directory) (other : Location) :
    kind? { tree with files := Keyed.put location content tree.files } other =
      if other = location then some .file else tree.kind? other := by
  have undirected : (isOutside location || tree.directories.contains location) = false := by
    refine Bool.eq_false_iff.mpr fun held => free ?_
    simp only [kind?, held, if_true]
  by_cases same : other = location
  · subst same
    simp only [kind?, undirected, lookup_put]
    simp
  · simp only [kind?, lookup_put, if_neg same]

theorem makeDirectory_grows {tree after : FileTree} {path : Path}
    (made : tree.makeDirectory path = .ok after) : Grows tree after := by
  obtain ⟨location, _, placed⟩ := Outcome.bind_eq_ok_iff.mp made
  cases free : tree.kind? location with
  | some kind => simp [free, refuse] at placed
  | none =>
    simp only [free, Except.ok.injEq] at placed
    subst placed
    refine ⟨?kinds, ?contents⟩
    case kinds =>
      intro other kind held
      rw [kind?_withDirectory]
      by_cases same : other = location
      · simp [same, free] at held
      · rw [if_neg same, held]
    case contents =>
      intro other
      by_cases same : other = location
      · simp [content?, kind?_withDirectory, same, free]
      · simp [content?, kind?_withDirectory, same]

theorem ensureDirectory_grows {tree after : FileTree} {path : Path}
    (made : tree.ensureDirectory path = .ok after) : Grows tree after := by
  unfold ensureDirectory at made
  split at made
  · next placed =>
    cases made
    exact makeDirectory_grows placed
  · split at made
    · cases made
      exact .refl tree
    · cases made

theorem ensureDirectories_grows (tree : FileTree) (path : Path) :
    Grows tree (tree.ensureDirectories path).1 := by
  fun_induction ensureDirectories tree path with
  | case1 path made placed => exact ensureDirectory_grows placed
  | case2 path error placed missing above failure failed ih => exact ih
  | case3 path error placed missing above done made again ih =>
    exact ih.trans (ensureDirectory_grows again)
  | case4 path error placed missing above done failure again ih => exact ih
  | case5 path error placed present => exact .refl tree

theorem put_of_write {tree after : FileTree} {path : Path} {content : Content}
    (written : tree.write path content = .ok after) :
    ∃ location, tree.locate path = .ok location ∧ tree.kind? location ≠ some .directory ∧
      after = { tree with files := Keyed.put location content tree.files } := by
  obtain ⟨location, located, placed⟩ := Outcome.bind_eq_ok_iff.mp written
  have free : tree.kind? location ≠ some .directory := by
    intro directory
    simp [directory, refuse] at placed
  refine ⟨location, located, free, ?_⟩
  split at placed
  · cases placed
  · exact (Except.ok.inj placed).symm

theorem write_spec {tree after : FileTree} {path : Path} {content : Content}
    (written : tree.write path content = .ok after) :
    ∃ location, tree.locate path = .ok location ∧ Extends tree after ∧
      after.content? location = some content ∧
      ∀ other, other ≠ location → after.content? other = tree.content? other := by
  obtain ⟨location, located, free, rfl⟩ := put_of_write written
  refine ⟨location, located, ?kinds, ?here, ?elsewhere⟩
  case kinds =>
    intro other kind held
    rw [kind?_withFile content free]
    by_cases same : other = location
    · subst same
      cases kind with
      | file => simp
      | directory => exact absurd held free
    · rw [if_neg same, held]
  case here =>
    simp [content?, kind?_withFile content free, lookup_put]
  case elsewhere =>
    intro other different
    simp [content?, kind?_withFile content free, lookup_put, different]

end SqlScaffold.Files.FileTree
