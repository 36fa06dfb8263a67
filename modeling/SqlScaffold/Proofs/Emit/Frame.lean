import SqlScaffold.Proofs.Emit.Directory
import SqlScaffold.Proofs.Emit.Placement
import SqlScaffold.Proofs.Files.Nesting

/-!
What units leave alone in a file tree. A call of a folder changes at most the file to which the path
of the unit leads, and nothing if it fails. A folder that may not replace files looks for the file
before it makes the directories above it. Where the path goes up again behind a missing directory
it leads nowhere at first, and to the file afterwards.
-/

namespace SqlScaffold

open Files FileTree

def Files.FileTree.KeepsFiles (before after : FileTree) : Prop :=
  ∀ location content, before.content? location = some content →
    after.content? location = some content

theorem Files.FileTree.KeepsFiles.refl (tree : FileTree) : KeepsFiles tree tree :=
  fun _ _ held => held

theorem Files.FileTree.KeepsFiles.trans {first second third : FileTree}
    (earlier : KeepsFiles first second) (later : KeepsFiles second third) :
    KeepsFiles first third :=
  fun location content held => later location content (earlier location content held)

theorem Files.FileTree.Grows.keepsFiles {before after : FileTree} (grows : Grows before after) :
    KeepsFiles before after :=
  fun location _ held => (grows.contents location).trans held

namespace Emit

def Replaces (tree : FileTree) (path : Path) (body : String) : Prop :=
  (tree.ensureDirectories path.parent).2 = none ∧
    ∃ location content, (tree.ensureDirectories path.parent).1.locate path = .ok location ∧
      tree.content? location = some content ∧ content ≠ .text body

theorem writeFile_keepsFiles_iff (tree : FileTree) (path : Path) (body : String) :
    KeepsFiles tree (writeFile tree path body).state ↔ ¬Replaces tree path body := by
  have grown := ensureDirectories_grows tree path.parent
  unfold writeFile Replaces
  dsimp only
  generalize tree.ensureDirectories path.parent = made at grown ⊢
  cases outcome : made.2 with
  | some error => simp [failed, grown.keepsFiles]
  | none =>
    cases filled : made.1.write path (.text body) with
    | error error =>
      refine iff_of_true grown.keepsFiles ?_
      rintro ⟨_, location, content, located, held, _⟩
      have undirected := (content?_eq_some_iff.mp ((grown.contents location).trans held)).1
      cases filled.symm.trans (write_of_located located undirected _)
    | ok written =>
      obtain ⟨location, located, _, here, elsewhere⟩ := write_spec filled
      constructor
      · rintro keeps ⟨_, place, content, reached, held, other⟩
        cases located.symm.trans reached
        exact other (Option.some.inj ((keeps location content held).symm.trans here))
      · intro kept place content held
        by_cases same : place = location
        · subst same
          by_contra differs
          refine kept ⟨rfl, place, content, located, held, ?_⟩
          rintro rfl
          exact differs here
        · exact (elsewhere place same).trans ((grown.contents place).trans held)

namespace Directory

variable (directory : Directory)

structure TouchesOne (before : FileTree) (unit : SourceUnit) : Prop where
  kinds : Extends before (toDirectory directory before unit).state
  elsewhere : ∀ location,
    (toDirectory directory before unit).state.locate (directory.pathOf unit) ≠ .ok location →
    (toDirectory directory before unit).state.content? location = before.content? location
  failing : ∀ failure, (toDirectory directory before unit).outcome.value = .error failure →
    ∀ location, (toDirectory directory before unit).state.content? location =
      before.content? location

theorem touchesOne (tree : FileTree) (unit : SourceUnit) : directory.TouchesOne tree unit := by
  cases outcome : (toDirectory directory tree unit).outcome.value with
  | error failure =>
    have grows := toDirectory_grows outcome
    exact ⟨grows.kinds, fun location _ => grows.contents location,
      fun _ _ => grows.contents⟩
  | ok written =>
    obtain ⟨place, stores⟩ := toDirectory_stores outcome
    refine ⟨stores.kinds, fun location apart => stores.others location ?_, by simp [outcome]⟩
    rintro rfl
    exact apart stores.located

/-- Nothing seems to be at the path of the unit, and yet the unit would replace a file. -/
def Overlooks (tree : FileTree) (unit : SourceUnit) : Prop :=
  tree.holds (directory.pathOf unit) = .ok false ∧
    Replaces tree (directory.pathOf unit) unit.body

/-- Whatever file is there at some point of the calls for some units is there at every later point,
with the same content. -/
def NeverReplaces (tree : FileTree) (units : List SourceUnit) : Prop :=
  ∀ earlier middle later, units = earlier ++ middle ++ later →
    KeepsFiles (stateAfter (toDirectory directory) tree earlier)
      (stateAfter (toDirectory directory) tree (earlier ++ middle))

variable {directory}

theorem keepsFiles_iff (careful : directory.overwrite = false) (tree : FileTree)
    (unit : SourceUnit) :
    KeepsFiles tree (toDirectory directory tree unit).state ↔ ¬directory.Overlooks tree unit := by
  unfold toDirectory Overlooks Directory.pathOf
  dsimp only
  cases held : tree.holds (directory.pathFor unit.package unit.name) with
  | error error => simp [failed, KeepsFiles.refl]
  | ok found =>
    cases found with
    | true => simp [careful, failed, KeepsFiles.refl]
    | false => simp [writeFile_keepsFiles_iff]

theorem neverReplaces_iff {tree : FileTree} {units : List SourceUnit} :
    directory.NeverReplaces tree units ↔ ∀ call ∈ calls (toDirectory directory) tree units,
      KeepsFiles call.1 (toDirectory directory call.1 call.2).state := by
  constructor
  · intro never call member
    obtain ⟨earlier, later, split, met⟩ := split_of_mem_calls member
    have kept := never earlier [call.2] later (by simp [split])
    rwa [stateAfter_append, ← met] at kept
  · rintro kept earlier middle later rfl
    rw [stateAfter_append]
    refine related_stateAfter .refl (fun first second => first.trans second) fun call member => ?_
    refine kept call ?_
    rw [calls_append, calls_append]
    exact List.mem_append_left _ (List.mem_append_right _ member)

theorem toDirectory_nested {tree : FileTree} (nested : tree.IsNested) (unit : SourceUnit) :
    (toDirectory directory tree unit).state.IsNested := by
  have made := ensureDirectories_nested nested (directory.pathOf unit).parent
  unfold Directory.pathOf at made
  unfold toDirectory writeFile
  dsimp only
  split
  · exact nested
  · split
    · exact nested
    · split
      · exact made
      · split
        · exact made
        · next filled => exact write_nested made filled

theorem Overlooks.turnsBack {tree : FileTree} {unit : SourceUnit} (nested : tree.IsNested)
    (overlooks : directory.Overlooks tree unit) : tree.TurnsBack (directory.pathOf unit) := by
  obtain ⟨unheld, _, location, content, located, held, _⟩ := overlooks
  have grown := ensureDirectories_grows tree (directory.pathOf unit).parent
  refine nested.turnsBack grown.kinds unheld located ?_
  simp [file_of_content? held]

/-- Each call for some units changes at most the file of its unit, and no file if it fails. If the
folder may not replace files, all files stay as they are exactly if none is overlooked. Bodies are
made of characters: one with half of a pair of codes would fail with its file emptied. -/
theorem calls_frame (directory : Directory) (tree : FileTree) (units : List SourceUnit) :
    (∀ call ∈ calls (toDirectory directory) tree units, directory.TouchesOne call.1 call.2) ∧
    (directory.overwrite = false →
      (directory.NeverReplaces tree units ↔
        ∀ call ∈ calls (toDirectory directory) tree units,
          ¬directory.Overlooks call.1 call.2) ∧
      (tree.IsNested → ∀ call ∈ calls (toDirectory directory) tree units,
        directory.Overlooks call.1 call.2 → call.1.TurnsBack (directory.pathOf call.2))) := by
  refine ⟨fun call _ => directory.touchesOne call.1 call.2, fun careful => ⟨?keeps, ?turns⟩⟩
  case keeps =>
    rw [neverReplaces_iff]
    exact forall₂_congr fun call _ => keepsFiles_iff careful call.1 call.2
  case turns =>
    intro nested call member overlooks
    have still := holds_of_mem_calls nested (fun _ unit held => toDirectory_nested held unit) member
    exact overlooks.turnsBack still

/-- No path of these units goes up, so the file that is there stays. -/
theorem calls_frame_down :
    (keeping (.ofText "out")).NeverReplaces (ofFiles [("out/A.java", .text "old")])
      [⟨"b", "C", "text"⟩, ⟨"", "A", "new"⟩] := by
  obtain ⟨keeps, turns⟩ := (calls_frame (keeping (.ofText "out"))
    (ofFiles [("out/A.java", .text "old")]) [⟨"b", "C", "text"⟩, ⟨"", "A", "new"⟩]).2 rfl
  have down : ∀ unit ∈ [⟨"b", "C", "text"⟩, ⟨"", "A", "new"⟩],
      ".." ∉ ((keeping (.ofText "out")).pathOf unit).parts := by
    decide +kernel
  refine keeps.mpr fun call member overlooks => ?_
  have turning := turns (nested_ofFiles _) call member overlooks
  obtain ⟨earlier, later, split, _⟩ := split_of_mem_calls member
  exact down call.2 (by simp [split]) turning.up_mem

/-- The way to the folder goes up behind a directory that is missing, so the file in the folder is
overlooked. -/
theorem not_neverReplaces_behindMissing :
    ¬(keeping (.ofText "new/../out")).NeverReplaces (ofFiles [("out/A.java", .text "old")])
      [⟨"", "A", "text"⟩] := by
  intro never
  have kept := never [] [⟨"", "A", "text"⟩] [] rfl ["out", "A.java"] (.text "old") (by decide +kernel)
  revert kept
  decide +kernel

end Directory

end Emit

end SqlScaffold
