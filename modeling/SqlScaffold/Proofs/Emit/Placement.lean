import SqlScaffold.Emit.Destination
import SqlScaffold.Proofs.Files.Joining
import SqlScaffold.Proofs.Source.TypeName
import SqlScaffold.Proofs.Text.Blank
import SqlScaffold.Settings.Advice
import SqlScaffold.Settings.Check

/-!
Places of units below a folder. If no name has a point or a slash in it, units share a path exactly
if they share their qualified name, and no directory has the name of a file.
-/

namespace SqlScaffold

open Text Files Source

theorem Files.Path.ofText_of_part {text : String} (flat : '/' ∉ text.toList)
    (part : Path.isPart text) : Path.ofText text = ⟨.current, [text]⟩ := by
  have anchor : Path.anchorOf text.toList = .current := by
    unfold Path.anchorOf
    cases chars : text.toList with
    | nil => rfl
    | cons c rest =>
      simp only [chars, List.mem_cons, not_or] at flat
      simp [Ne.symm flat.1]
  simp [Path.ofText, anchor, splitAtChar_of_not_mem flat, part]

/-- Qualified names tell apart packages and names, as long as the names have no points. -/
theorem qualify_inj {package other name further : String} (pointless : '.' ∉ name.toList)
    (alsoPointless : '.' ∉ further.toList) (same : qualify package name = qualify other further) :
    package = other ∧ name = further := by
  have pointed : ∀ package name : String, '.' ∈ (package ++ "." ++ name).toList := by
    intro package name
    simp [String.toList_append]
  unfold qualify at same
  split at same
  · next empty =>
    split at same
    · next alsoEmpty => exact ⟨empty.trans alsoEmpty.symm, same⟩
    · exact absurd (same ▸ pointed other further) pointless
  · split at same
    · exact absurd (same ▸ pointed package name) alsoPointless
    · have split := congrArg splitType same
      rw [splitType_append package pointless, splitType_append other alsoPointless] at split
      exact Prod.mk.inj split

namespace Emit

def pathMarks : List Char := ['.', '/', '\x00']

def IsPlain (name : String) : Prop := ∀ c ∈ pathMarks, c ∉ name.toList

theorem IsPlain.append {first second : String} (plain : IsPlain first) (also : IsPlain second) :
    IsPlain (first ++ second) := by
  intro c mark
  simp [String.toList_append, plain c mark, also c mark]

theorem plain_of_isWord {name : String} (word : isWord name.toList) : IsPlain name := by
  have marks : (pathMarks.all fun c => !isWordPart c && !isWordStart c) = true := by decide
  simp only [List.all_eq_true, Bool.and_eq_true, Bool.not_eq_true'] at marks
  exact fun c mark => not_mem_of_isWord word (marks c mark).1 (marks c mark).2

theorem plain_of_isIdentifier {name : String} (identifier : isIdentifier name) : IsPlain name := by
  have marks : (pathMarks.all fun c => !isIdentifierPart c) = true := by decide +kernel
  simp only [List.all_eq_true, Bool.not_eq_true'] at marks
  intro c mark member
  have part := isIdentifierPart_of_mem identifier c member
  rw [marks c mark] at part
  cases part

def packageParts (package : String) : List String :=
  if package = "" then [] else splitAtChar '.' package

theorem packageParts_inj {first second : String}
    (same : packageParts first = packageParts second) : first = second := by
  unfold packageParts at same
  split at same
  · next empty =>
    split at same
    · next also => exact empty.trans also.symm
    · exact absurd same.symm (splitAtChar_ne_nil '.' second)
  · split at same
    · exact absurd same (splitAtChar_ne_nil '.' first)
    · rw [← joinWith_splitAtChar '.' first, same, joinWith_splitAtChar]

def fileName (unit : SourceUnit) : String := unit.name ++ Generator.extension

def partsOf (unit : SourceUnit) : List String := packageParts unit.package ++ [fileName unit]

structure IsPlaced (unit : SourceUnit) : Prop where
  name : IsPlain unit.name
  package : ∀ part ∈ packageParts unit.package, IsPlain part ∧ part ≠ ""

theorem point_mem_fileName (unit : SourceUnit) : '.' ∈ (fileName unit).toList := by
  simp [fileName, Generator.extension, String.toList_append]

theorem fileName_ne {unit : SourceUnit} {name : String} (short : name.length < 5) :
    fileName unit ≠ name := by
  rintro rfl
  have five : Generator.extension.length = 5 := rfl
  rw [fileName, String.length_append, five] at short
  omega

theorem IsPlaced.ofText_part {unit : SourceUnit} (placed : IsPlaced unit) :
    ∀ part ∈ partsOf unit, Path.ofText part = ⟨.current, [part]⟩ := by
  intro part member
  rcases List.mem_append.mp member with directory | file
  · obtain ⟨plain, nonempty⟩ := placed.package part directory
    have dot : part ≠ "." := by
      rintro rfl
      exact plain '.' (by decide) (by decide)
    exact Path.ofText_of_part (plain '/' (by decide)) (by simp [Path.isPart, nonempty, dot])
  · have slash := placed.name '/' (by decide)
    have named : fileName unit ≠ "" := fileName_ne (by decide)
    have other : fileName unit ≠ "." := fileName_ne (by decide)
    rw [List.mem_singleton.mp file]
    exact Path.ofText_of_part
      (by simp [fileName, Generator.extension, String.toList_append, slash])
      (by simp [Path.isPart, named, other])

def Directory.way (directory : Directory) (package name : String) : List String :=
  packageParts package ++ [name ++ directory.extension]

theorem Directory.pathFor_eq_joinAll (directory : Directory) (package name : String) :
    directory.pathFor package name = directory.root.joinAll (directory.way package name) := by
  unfold pathFor way packageParts Path.joinAll
  split <;> simp

def Directory.keeping (root : Path) : Directory := { root, overwrite := false }

theorem IsPlaced.pathFor_eq {unit : SourceUnit} (placed : IsPlaced unit) (root : Path) :
    (Directory.keeping root).pathFor unit.package unit.name = root.below (partsOf unit) := by
  have relative : ∀ part ∈ partsOf unit, Path.startsAtRoot part = false := fun part member =>
    (Path.anchor_ofText_iff part).mp (by rw [placed.ofText_part part member])
  have single : (partsOf unit).flatMap (fun part => (Path.ofText part).parts) =
      (partsOf unit).flatMap fun part => [part] :=
    List.flatMap_congr fun part member => by rw [placed.ofText_part part member]
  have joined := (Directory.keeping root).pathFor_eq_joinAll unit.package unit.name
  rw [joined, ← List.flatMap_singleton' (partsOf unit), ← single]
  exact Path.joinAll_of_relative root relative

theorem IsPlaced.part_ne {unit : SourceUnit} (placed : IsPlaced unit) :
    ∀ part ∈ partsOf unit, part ≠ ".." := by
  intro part member
  rcases List.mem_append.mp member with directory | file
  · rintro rfl
    exact (placed.package _ directory).1 '.' (by decide) (by decide)
  · rw [List.mem_singleton.mp file]
    exact fileName_ne (by decide)

/-- Different qualified names go to different paths. -/
theorem partsOf_eq_iff {first second : SourceUnit} (placed : IsPlaced first)
    (other : IsPlaced second) :
    partsOf first = partsOf second ↔ first.qualifiedName = second.qualifiedName := by
  constructor
  · intro same
    obtain ⟨packages, names⟩ := List.append_inj' same rfl
    have files : first.name ++ Generator.extension = second.name ++ Generator.extension :=
      List.singleton_inj.mp names
    rw [SourceUnit.qualifiedName, SourceUnit.qualifiedName, packageParts_inj packages,
      (String.append_left_inj _).mp files]
  · intro same
    obtain ⟨package, name⟩ :=
      qualify_inj (placed.name '.' (by decide)) (other.name '.' (by decide)) same
    rw [partsOf, partsOf, fileName, fileName, package, name]

structure HasWordNames (model : Model) : Prop where
  name : isWord model.name.toList
  package : ∀ part ∈ packageParts model.package, isWord part.toList

theorem HasWordNames.placed {model : Model} (words : HasWordNames model) {unit : SourceUnit}
    {suffix : String} (identifier : isIdentifier suffix) (package : unit.package = model.package)
    (name : unit.name = model.name ++ suffix) : IsPlaced unit where
  name := name ▸ (plain_of_isWord words.name).append (plain_of_isIdentifier identifier)
  package := by
    intro part member
    rw [package] at member
    have word := words.package part member
    refine ⟨plain_of_isWord word, ?_⟩
    rintro rfl
    cases word

/-- Settings that nothing is advised on have identifiers for suffixes. -/
theorem suffixes_of_unadvised {settings : Settings} (unadvised : settings.draft.advice = []) :
    isIdentifier settings.supportSuffix ∧ isIdentifier settings.mapperSuffix := by
  simp only [Draft.advice, List.append_eq_nil_iff, List.flatMap_eq_nil_iff] at unadvised
  have accepted : ∀ setting ∈ [Setting.supportSuffix, .mapperSuffix, .resultMapSuffix],
      Draft.isName (settings.draft.get setting) := by
    intro setting member
    have silent := unadvised.1.1.1 setting member
    unfold Draft.suffixAdvice at silent
    split at silent
    · assumption
    · cases silent
  exact ⟨accepted .supportSuffix (by simp), accepted .mapperSuffix (by simp)⟩

end Emit

end SqlScaffold
