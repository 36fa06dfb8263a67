import SqlScaffold.Proofs.Emit.Directory
import SqlScaffold.Proofs.Emit.Placement
import SqlScaffold.Proofs.Generator
import SqlScaffold.Scan.Input

/-!
Units against the folder that they are meant to stay below. The parts of a package never lead
upwards, since points divide them. A unit leaves its folder through `..` in its own name, or where
a name on the way to it begins anew at a root.
-/

namespace SqlScaffold.Emit

open Files Path Scan Text

/-- Points divide a package, so none is left for a part that leads upwards. -/
theorem up_not_mem_of_packageParts {package segment : String}
    (listed : segment ∈ packageParts package) : ".." ∉ (ofText segment).parts := by
  unfold packageParts at listed
  split at listed
  · cases listed
  · intro up
    have point : '.' ∈ "..".toList := by decide
    have inside := (mem_of_mem_splitAtChar (mem_parts_ofText.mp up).1 '.' point).1
    exact (mem_of_mem_splitAtChar listed '.' inside).2 rfl

theorem up_mem_parts_iff (segment : String) :
    ".." ∈ (ofText segment).parts ↔ ".." ∈ splitAtChar '/' segment := by
  have part : isPart ".." := by decide
  simp [mem_parts_ofText, part]

/-- What keeps a unit below a folder: the way to it goes onward without `..`, or it begins anew at
a root and leads back below the folder. -/
inductive Directory.Keeps (directory : Directory) (package name : String) : Prop
  | onward (relative : ∀ segment ∈ directory.way package name, startsAtRoot segment = false)
      (down : ".." ∉ splitAtChar '/' (name ++ directory.extension)) :
      Keeps directory package name
  | anew {earlier later : List String} {segment : String}
      (split : directory.way package name = earlier ++ segment :: later)
      (root : startsAtRoot segment) (relative : ∀ other ∈ later, startsAtRoot other = false)
      (back : ((ofText segment).joinAll later).IsBelow directory.root) :
      Keeps directory package name

theorem Directory.isBelow_pathFor_iff_of_relative {directory : Directory} {package name : String}
    (relative : ∀ segment ∈ directory.way package name, startsAtRoot segment = false) :
    (directory.pathFor package name).IsBelow directory.root ↔
      ".." ∉ splitAtChar '/' (name ++ directory.extension) := by
  have packages : ".." ∉ (packageParts package).flatMap fun segment => (ofText segment).parts := by
    intro up
    obtain ⟨segment, listed, inside⟩ := List.mem_flatMap.mp up
    exact up_not_mem_of_packageParts listed inside
  rw [pathFor_eq_joinAll, joinAll_of_relative _ relative, isBelow_below_iff, way,
    List.flatMap_append, List.mem_append, List.flatMap_singleton, up_mem_parts_iff]
  simp [packages]

theorem Directory.isBelow_pathFor_iff (directory : Directory) (package name : String) :
    (directory.pathFor package name).IsBelow directory.root ↔ directory.Keeps package name := by
  constructor
  · intro inside
    -- The last name that begins anew drops all that stands before it.
    rcases relative_or_root (directory.way package name) with relative | found
    · exact .onward relative ((isBelow_pathFor_iff_of_relative relative).mp inside)
    · obtain ⟨earlier, segment, later, split, root, relative⟩ := found
      rw [pathFor_eq_joinAll, split, joinAll_of_root _ earlier root] at inside
      exact .anew split root relative inside
  · intro keeps
    cases keeps with
    | onward relative down => exact (isBelow_pathFor_iff_of_relative relative).mpr down
    | anew split root relative back =>
      rwa [pathFor_eq_joinAll, split, joinAll_of_root _ _ root]

/-- Each of the two units of a model stays below a folder exactly if the folder keeps it, by the
package and the name of the model and by the suffix of the unit. -/
theorem units_isBelow_iff {generator : Generator} {model : Model} {units : List SourceUnit}
    (made : generator.units model = .ok units) (directory : Directory) :
    ∀ unit ∈ units,
      ∃ suffix ∈ [generator.settings.supportSuffix, generator.settings.mapperSuffix],
        unit.name = model.name ++ suffix ∧
          ((directory.pathOf unit).IsBelow directory.root ↔
            directory.Keeps model.package (model.name ++ suffix)) := by
  obtain ⟨support, mapper, rfl⟩ := Generator.units_eq_ok made
  intro unit member
  rcases List.mem_cons.mp member with rfl | later
  · exact ⟨_, by simp, rfl, directory.isBelow_pathFor_iff _ _⟩
  · rw [List.mem_singleton.mp later]
    exact ⟨_, by simp, rfl, directory.isBelow_pathFor_iff _ _⟩

def rootedFolder : Directory := { root := ofText "/srv/out" }

/-- A package may begin anew at a root, as long as it leads back below the folder. -/
theorem units_isBelow_iff_anew :
    ∃ units,
      Generator.standard.units (Generator.fieldless "a./srv/out" "B" (by decide)) = .ok units ∧
        ∀ unit ∈ units, (rootedFolder.pathOf unit).IsBelow rootedFolder.root := by
  obtain ⟨support, mapper, made⟩ := Generator.fieldless_ok "a./srv/out" "B" (by decide)
  have kept : ∀ suffix ∈ [Generator.standard.settings.supportSuffix,
      Generator.standard.settings.mapperSuffix],
      rootedFolder.Keeps "a./srv/out" ("B" ++ suffix) := by
    have ways : ∀ suffix ∈ [Generator.standard.settings.supportSuffix,
        Generator.standard.settings.mapperSuffix],
        rootedFolder.way "a./srv/out" ("B" ++ suffix) =
            ["a"] ++ "/srv/out" :: ["B" ++ suffix ++ ".java"] ∧
          startsAtRoot ("B" ++ suffix ++ ".java") = false ∧
          ((ofText "/srv/out").joinAll ["B" ++ suffix ++ ".java"]).IsBelow rootedFolder.root := by
      decide +kernel
    intro suffix listed
    obtain ⟨split, relative, back⟩ := ways suffix listed
    exact .anew split (by decide) (by simpa using relative) back
  refine ⟨_, made, fun unit member => ?_⟩
  obtain ⟨suffix, listed, _, below⟩ := units_isBelow_iff made rootedFolder unit member
  exact below.mpr (kept suffix listed)

/-- A model that is declared under a name with `..` in it has both of its units outside of the
folder. -/
theorem units_outside :
    ∃ model units,
      ((Input.declaration (.object [("name", .text "../A")])).scan none).value = .ok model ∧
        Generator.standard.units model = .ok units ∧
        ∀ unit ∈ units, ¬(outFolder.pathOf unit).IsBelow outFolder.root := by
  obtain ⟨support, mapper, made⟩ := Generator.fieldless_ok "" "../A" (by decide)
  have upwards : ∀ suffix ∈ [Generator.standard.settings.supportSuffix,
      Generator.standard.settings.mapperSuffix],
      ¬(outFolder.pathFor "" ("../A" ++ suffix)).IsBelow outFolder.root := by
    decide +kernel
  refine ⟨_, _, rfl, made, fun unit member => ?_⟩
  rcases List.mem_cons.mp member with rfl | later
  · exact upwards _ List.mem_cons_self
  · rw [List.mem_singleton.mp later]
    exact upwards _ (List.mem_cons_of_mem _ List.mem_cons_self)

end SqlScaffold.Emit
