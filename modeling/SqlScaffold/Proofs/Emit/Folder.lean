import SqlScaffold.Proofs.Emit.Directory
import SqlScaffold.Proofs.Emit.Placement

/-!
A folder that was empty, or not there, and now holds some units. While it replaces no files, it
refuses exactly the units whose qualified names it holds, and it stores all others, since no
directory of a package stands where a unit belongs, nor a unit where a directory does.
-/

namespace SqlScaffold

open Files FileTree

namespace Emit

structure Furnished (base : FileTree) (place : Location) (stored : List SourceUnit) : Prop where
  files : ∀ below, base.kind? (place ++ below) = some .file ↔ ∃ unit ∈ stored, below = partsOf unit
  directories : ∀ below, base.kind? (place ++ below) = some .directory →
    ∀ part ∈ below, '.' ∉ part.toList

structure Houses (before : FileTree) (root : Path) (place : Location) (stored : List SourceUnit)
    (tree : FileTree) : Prop where
  ready : ∃ base, Makes tree root base place ∧ Furnished base place stored
  placed : ∀ unit ∈ stored, IsPlaced unit
  distinct : (stored.map SourceUnit.qualifiedName).Nodup
  located : ∀ unit ∈ stored,
    tree.locate (root.below (partsOf unit)) = .ok (place ++ partsOf unit)
  contents : ∀ unit ∈ stored, tree.content? (place ++ partsOf unit) = some (.text unit.body)
  unheld : ∀ unit ∈ stored, before.content? (place ++ partsOf unit) = none
  others : ∀ location, (∀ unit ∈ stored, location ≠ place ++ partsOf unit) →
    tree.content? location = before.content? location

variable {before tree : FileTree} {root : Path} {place : Location} {stored : List SourceUnit}
  {unit : SourceUnit}

theorem houses_nil (fresh : tree.IsFresh root) : ∃ place, Houses tree root place [] tree := by
  obtain ⟨base, place, makes, empty⟩ := fresh
  refine ⟨place, ⟨base, makes, ?files, ?directories⟩, by simp, by simp, by simp, by simp, by simp,
    fun _ _ => rfl⟩
  case files =>
    intro below
    cases below with
    | nil => simp [makes.directory]
    | cons part rest => simp [empty]
  case directories =>
    intro below
    cases below with
    | nil => simp
    | cons part rest => simp [empty]

theorem Houses.holds_of_mem (houses : Houses before root place stored tree)
    (member : unit ∈ stored) : tree.holds (root.below (partsOf unit)) = .ok true := by
  have file := file_of_content? (houses.contents unit member)
  simp [holds, houses.located unit member, file]

theorem toDirectory_of_held (held : tree.holds ((Directory.keeping root).pathOf unit) = .ok true) :
    toDirectory (.keeping root) tree unit =
      failed tree (.refused (.existing ((Directory.keeping root).pathOf unit))) := by
  unfold Directory.pathOf at held ⊢
  unfold toDirectory
  dsimp only
  rw [held]
  rfl

theorem Furnished.free {base : FileTree} (furnished : Furnished base place stored)
    (others : ∀ other ∈ stored, partsOf unit ≠ partsOf other) :
    base.kind? (place ++ partsOf unit) = none := by
  cases held : base.kind? (place ++ partsOf unit) with
  | none => rfl
  | some kind =>
    cases kind with
    | file =>
      obtain ⟨other, member, same⟩ := (furnished.files _).mp held
      exact absurd same (others other member)
    | directory =>
      -- The name of a file has a point before its extension.
      have pointless := furnished.directories _ held (fileName unit) (by simp [partsOf])
      exact absurd (point_mem_fileName unit) pointless

theorem pathOf_keeping (placed : IsPlaced unit) (root : Path) :
    (Directory.keeping root).pathOf unit = root.below (partsOf unit) :=
  placed.pathFor_eq root

theorem below_partsOf (root : Path) (unit : SourceUnit) :
    root.below (partsOf unit) =
      (root.below (packageParts unit.package)).below [fileName unit] :=
  Path.below_append ..

theorem writeFile_of_makes {made : FileTree} {part : String} (makes : Makes tree root made place)
    (short : (root.below [part]).IsShort) (down : part ≠ "..")
    (undirected : made.kind? (place ++ [part]) ≠ some .directory) (body : String) :
    made.write (root.below [part]) (.text body) =
        .ok { made with files := Keyed.put (place ++ [part]) (.text body) made.files } ∧
      writeFile tree (root.below [part]) body =
        succeeded { made with files := Keyed.put (place ++ [part]) (.text body) made.files }
          (some (root.below [part])) .info ("Wrote " ++ (root.below [part]).text) := by
  have written := write_of_located (locate_below short down makes.located makes.directory)
    undirected (.text body)
  exact ⟨written, by simp only [writeFile, Path.parent_below, makes.ensured, written]⟩

section New

variable (placed : IsPlaced unit) (short : (root.below (partsOf unit)).IsShort)
  (others : ∀ other ∈ stored, partsOf unit ≠ partsOf other)

include others in
theorem Houses.free_of_new (houses : Houses before root place stored tree) :
    tree.kind? (place ++ partsOf unit) = none := by
  obtain ⟨base, makes, furnished⟩ := houses.ready
  rw [Option.eq_none_iff_forall_ne_some]
  intro kind held
  have kept := makes.grows.kinds _ kind held
  rw [furnished.free others] at kept
  cases kept

include placed short others in
theorem Houses.holds_of_new (houses : Houses before root place stored tree) :
    tree.holds (root.below (partsOf unit)) = .ok false := by
  obtain ⟨base, makes, _⟩ := houses.ready
  have free := houses.free_of_new others
  -- What is short enough is looked up without an error, even below what is missing.
  have answers := mt (holds_eq_error_iff tree (root.below (partsOf unit))).mp
    fun ⟨_, long⟩ => not_tooLong short.parts short.whole tree long
  unfold holds at answers ⊢
  cases located : tree.locate (root.below (partsOf unit)) with
  | ok location =>
    have reached := walk_of_locate short (makes.grows.kinds.locate located)
    rw [walk_below, walk_of_locate short.of_below makes.located] at reached
    have here : location = place ++ partsOf unit := eq_append_of_walk reached placed.part_ne
    simp [here, free]
  | error error =>
    rw [located] at answers
    cases error with
    | nullCharacter => rfl
    | system error =>
      dsimp only at answers ⊢
      split
      · next long => exact absurd ⟨_, if_pos long⟩ answers
      · rfl

include placed in
theorem Furnished.unfiled {base : FileTree} (furnished : Furnished base place stored) :
    ∀ above, above <+: packageParts unit.package → above ≠ [] →
      base.kind? (place ++ above) ≠ some .file := by
  intro above begins _ held
  -- A file here would be that of a unit, whose name has a point.
  obtain ⟨other, _, rfl⟩ := (furnished.files above).mp held
  have inside := begins.subset (show fileName other ∈ partsOf other by simp [partsOf])
  exact (placed.package _ inside).1 '.' (by decide) (point_mem_fileName other)

include placed short in
theorem Furnished.makes {base : FileTree} (furnished : Furnished base place stored)
    (makes : Makes tree root base place) :
    ∃ made, Makes tree (root.below (packageParts unit.package)) made
        (place ++ packageParts unit.package) ∧
      Opens base made place (packageParts unit.package) ∧
      made.kind? (place ++ packageParts unit.package ++ [fileName unit]) ≠ some .directory := by
  rw [below_partsOf] at short
  obtain ⟨made, reaches, opens⟩ := makes.below short.of_below
    (fun part member => placed.part_ne part (List.mem_append_left _ member))
    (furnished.unfiled placed)
  refine ⟨made, reaches, opens, ?_⟩
  intro directory
  rw [List.append_assoc] at directory
  rcases opens.directories _ directory with old | ⟨above, begins, same⟩
  · exact furnished.directories _ old (fileName unit) (by simp) (point_mem_fileName unit)
  · -- Directories that were made lie on the way to the package, which is too short for the unit.
    have length := begins.length_le
    rw [← List.append_cancel_left same, List.length_append, List.length_singleton] at length
    omega

include placed in
theorem Furnished.store {base made after : FileTree} (furnished : Furnished base place stored)
    (opens : Opens base made place (packageParts unit.package))
    (filled : ∀ other, after.kind? other =
      if other = place ++ partsOf unit then some .file else made.kind? other) :
    Furnished after place (stored ++ [unit]) where
  files := by
    intro below
    rw [filled]
    by_cases same : below = partsOf unit
    · simp [same]
    · rw [if_neg (mt List.append_cancel_left same), opens.files, furnished.files]
      simp [same]
  directories := by
    intro below directory part member
    rw [filled] at directory
    split at directory
    · cases directory
    · rcases opens.directories _ directory with old | ⟨above, begins, same⟩
      · exact furnished.directories below old part member
      · rw [List.append_cancel_left same] at member
        exact (placed.package part (begins.subset member)).1 '.' (by decide)

include placed others in
theorem Houses.add {base made after : FileTree} (houses : Houses before root place stored tree)
    (makes : Makes tree root base place) (furnished : Furnished base place stored)
    (opens : Opens base made place (packageParts unit.package)) (grown : Extends made after)
    (filled : ∀ other, after.kind? other =
      if other = place ++ partsOf unit then some .file else made.kind? other)
    (stores : Stores tree after (root.below (partsOf unit)) unit.body (place ++ partsOf unit)) :
    Houses before root place (stored ++ [unit]) after := by
  have apart : ∀ other ∈ stored, place ++ partsOf other ≠ place ++ partsOf unit :=
    fun other member same => others other member (List.append_cancel_left same).symm
  have rooted := (opens.kinds.trans grown).locate makes.located
  have directory := (opens.kinds.trans grown) _ _ makes.directory
  refine ⟨⟨after, makes_of_directory rooted directory, furnished.store placed opens filled⟩,
    ?placed, ?distinct, ?located, ?contents, ?unheld, ?others⟩
  case placed =>
    simpa [or_imp, forall_and] using ⟨houses.placed, placed⟩
  case distinct =>
    rw [List.map_append, List.nodup_append]
    refine ⟨houses.distinct, by simp, ?_⟩
    rintro _ member _ last rfl
    obtain ⟨other, old, same⟩ := List.mem_map.mp member
    rw [List.map_singleton, List.mem_singleton] at last
    exact others other old
      ((partsOf_eq_iff placed (houses.placed other old)).mpr (last.symm.trans same.symm))
  case located =>
    intro other member
    rcases List.mem_append.mp member with old | new
    · exact stores.kinds.locate (houses.located other old)
    · exact List.mem_singleton.mp new ▸ stores.located
  case contents =>
    intro other member
    rcases List.mem_append.mp member with old | new
    · exact (stores.others _ (apart other old)).trans (houses.contents other old)
    · exact List.mem_singleton.mp new ▸ stores.content
  case unheld =>
    -- The new unit takes a place that no unit before it has, so what stood there is from before.
    intro other member
    rcases List.mem_append.mp member with old | new
    · exact houses.unheld other old
    · rw [List.mem_singleton.mp new, ← houses.others _ fun other old => (apart other old).symm]
      exact content?_of_free (houses.free_of_new others)
  case others =>
    intro location other
    rw [stores.others location (other unit (by simp)),
      houses.others location fun held old => other held (List.mem_append_left _ old)]

include placed short others in
theorem Houses.store (houses : Houses before root place stored tree) :
    (toDirectory (.keeping root) tree unit).outcome.value =
        .ok (some (root.below (partsOf unit))) ∧
      Houses before root place (stored ++ [unit])
        (toDirectory (.keeping root) tree unit).state := by
  obtain ⟨base, makes, furnished⟩ := houses.ready
  obtain ⟨made, reaches, opens, undirected⟩ := furnished.makes placed short makes
  have last : fileName unit ≠ ".." := fileName_ne (by decide)
  have located := locate_below (below_partsOf root unit ▸ short) last reaches.located
    reaches.directory
  obtain ⟨written, emitted⟩ := writeFile_of_makes reaches (below_partsOf root unit ▸ short) last
    undirected unit.body
  rw [← below_partsOf, List.append_assoc] at located written emitted
  rw [List.append_assoc] at undirected
  have handed : toDirectory (.keeping root) tree unit =
      writeFile tree (root.below (partsOf unit)) unit.body := by
    unfold toDirectory
    rw [placed.pathFor_eq root]
    simp [houses.holds_of_new placed short others, Directory.keeping]
  have stored := congrArg (fun emission => emission.outcome.value) emitted
  obtain ⟨location, stores⟩ := writeFile_stores stored
  rw [handed]
  rw [emitted] at stores ⊢
  obtain ⟨_, _, grown, _, _⟩ := write_spec written
  obtain rfl : location = place ++ partsOf unit :=
    Except.ok.inj (stores.located.symm.trans (grown.locate located))
  exact ⟨rfl, houses.add placed others makes furnished opens grown
    (kind?_withFile _ undirected) stores⟩

end New

end Emit

end SqlScaffold
