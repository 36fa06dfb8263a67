import Mathlib.Data.List.Basic
import SqlScaffold.Model
import SqlScaffold.Source.Identifier
import SqlScaffold.Source.TypeName

/-!
Type names and the simple names that they claim. Every simple name has at most one owner in a file,
a type is written short exactly if it owns its simple name, and only such a type is imported.
-/

namespace SqlScaffold

namespace Text

theorem splitLastChars_eq_none_iff {separator : Char} {chars : List Char} :
    splitLastChars separator chars = none ↔ separator ∉ chars := by
  induction chars with
  | nil => simp [splitLastChars]
  | cons c rest ih =>
    simp only [splitLastChars, List.mem_cons, not_or, ← ih]
    cases splitLastChars separator rest with
    | some parts => simp
    | none =>
      by_cases same : c = separator
      · simp [same]
      · simp [same, Ne.symm same]

theorem splitLastChars_append {separator : Char} (before : List Char) {after : List Char}
    (last : separator ∉ after) :
    splitLastChars separator (before ++ separator :: after) = some (before, after) := by
  induction before with
  | nil => simp [splitLastChars, splitLastChars_eq_none_iff.mpr last]
  | cons c rest ih => simp [splitLastChars, ih]

theorem not_mem_of_splitLastChars {separator : Char} {chars : List Char}
    {parts : List Char × List Char} (split : splitLastChars separator chars = some parts) :
    separator ∉ parts.2 := by
  induction chars generalizing parts with
  | nil => simp [splitLastChars] at split
  | cons c rest ih =>
    simp only [splitLastChars] at split
    cases found : splitLastChars separator rest with
    | some later =>
      simp only [found, Option.some.injEq] at split
      cases split
      have clean : separator ∉ later.2 := ih found
      exact clean
    | none =>
      simp only [found] at split
      split at split
      · cases split
        exact splitLastChars_eq_none_iff.mp found
      · cases split

end Text

namespace Source

open Text

theorem isQualified_iff {typeName : String} :
    isQualified typeName ↔
      '.' ∈ typeName.toList ∧ ∀ c ∈ ['<', '>', '[', ']'], c ∉ typeName.toList := by
  simp only [isQualified, Bool.and_eq_true, List.contains_iff_mem, Bool.not_eq_true',
    List.any_eq_false]
  refine and_congr_right fun _ => ?_
  constructor
  · intro free c bracket member
    exact free c member bracket
  · intro free c member bracket
    exact free c bracket member

theorem not_isQualified_of_not_mem {typeName : String} (pointless : '.' ∉ typeName.toList) :
    isQualified typeName = false := by
  simp [isQualified, pointless]

@[simp] theorem simpleName_of_not_isQualified {typeName : String}
    (unqualified : isQualified typeName = false) : simpleName typeName = typeName := by
  simp [simpleName, unqualified]

theorem not_mem_of_isWord {chars : List Char} (word : isWord chars) {c : Char}
    (other : isWordPart c = false) (otherStart : isWordStart c = false) : c ∉ chars := by
  cases chars with
  | nil => simp
  | cons first rest =>
    simp only [isWord, Bool.and_eq_true, List.all_eq_true] at word
    intro member
    rcases List.mem_cons.mp member with rfl | later
    · simp [otherStart] at word
    · simp [word.2 c later] at other

theorem splitType_append (package : String) {name : String} (pointless : '.' ∉ name.toList) :
    splitType (package ++ "." ++ name) = (package, name) := by
  have split : splitLastChars '.' (package.toList ++ '.' :: name.toList) =
      some (package.toList, name.toList) := splitLastChars_append _ pointless
  simp [splitType, splitLast, String.toList_append, split]

theorem not_mem_simpleName {typeName : String} (qualified : isQualified typeName) :
    '.' ∉ (simpleName typeName).toList := by
  have points := (isQualified_iff.mp qualified).1
  simp only [simpleName, qualified, if_true, splitType, splitLast]
  cases split : splitLastChars '.' typeName.toList with
  | none => exact absurd points (splitLastChars_eq_none_iff.mp split)
  | some parts => simpa using not_mem_of_splitLastChars split

theorem simpleName_qualify (package : String) {name : String} (pointless : '.' ∉ name.toList)
    (qualified : isQualified (qualify package name)) :
    simpleName (qualify package name) = name := by
  simp only [simpleName, qualified, if_true]
  unfold qualify at qualified ⊢
  split at qualified
  · simp [not_isQualified_of_not_mem pointless] at qualified
  · next named => rw [if_neg named, splitType_append package pointless]

/-- A well-known type is declared by what its qualified name says last, and it lives in a package
of its own. -/
theorem wellKnownTypes_qualified :
    ∀ entry ∈ wellKnownTypes, isQualified entry.2 ∧ simpleName entry.2 = entry.1 ∧
      (splitType entry.2).1 ≠ "java.lang" ∧ (splitType entry.2).1 ≠ "" := by
  decide +kernel

theorem wellKnown_of_lookup {typeName qualified : String}
    (known : wellKnownTypes.lookup typeName = some qualified) :
    isQualified qualified ∧ simpleName qualified = typeName ∧
      (splitType qualified).1 ≠ "java.lang" ∧ (splitType qualified).1 ≠ "" := by
  obtain ⟨before, after, split, _⟩ := List.lookup_eq_some_iff.mp known
  exact wellKnownTypes_qualified (typeName, qualified) (by simp [split])

theorem languageTypes_package :
    ∀ typeName ∈ languageTypes, (splitType ("java.lang." ++ typeName)).1 = "java.lang" := by
  decide +kernel

theorem canonicalName_of_isQualified {typeName : String} (qualified : isQualified typeName) :
    canonicalName typeName = typeName := by
  simp [canonicalName, qualified]

theorem importOf_eq (typeName : String) :
    importOf typeName =
      if isQualified (canonicalName typeName) ∧
        (splitType (canonicalName typeName)).1 ≠ "java.lang" then some (canonicalName typeName)
      else none := by
  by_cases qualified : isQualified typeName
  · simp [importOf, canonicalName_of_isQualified qualified, qualified]
  · cases known : wellKnownTypes.lookup typeName with
    | some other =>
      obtain ⟨points, _, foreign, _⟩ := wellKnown_of_lookup known
      simp [importOf, canonicalName, qualified, known, points, foreign]
    | none =>
      by_cases language : typeName ∈ languageTypes
      · simp [importOf, canonicalName, qualified, known, language,
          languageTypes_package typeName language]
      · simp [importOf, canonicalName, qualified, known, language]

theorem importInto_eq_of_canonicalName_eq (package : String) {first second : String}
    (same : canonicalName first = canonicalName second) :
    importInto package first = importInto package second := by
  simp only [importInto, importOf_eq, same]

theorem importOf_eq_some {typeName imported : String} (needed : importOf typeName = some imported) :
    isQualified imported ∧ simpleName imported = simpleName typeName ∧
      canonicalName typeName = imported := by
  unfold importOf at needed
  split at needed
  · next qualified =>
    split at needed
    · cases needed
    · cases needed
      exact ⟨qualified, rfl, canonicalName_of_isQualified qualified⟩
  · next unqualified =>
    have plain : isQualified typeName = false := by simpa using unqualified
    obtain ⟨qualified, simple, _⟩ := wellKnown_of_lookup needed
    exact ⟨qualified, by rw [simple, simpleName_of_not_isQualified plain],
      by simp [canonicalName, plain, needed]⟩

theorem mem_importInto_iff {package typeName imported : String} :
    imported ∈ importInto package typeName ↔
      importOf typeName = some imported ∧ (splitType imported).1 ≠ package := by
  unfold importInto
  cases needed : importOf typeName with
  | none => simp
  | some name =>
    have points := (isQualified_iff.mp (importOf_eq_some needed).1).1
    have nonempty : name ≠ "" := by
      rintro rfl
      simp at points
    by_cases own : (splitType name).1 = package
    · simp only [own, decide_true, Bool.or_true, if_true, List.not_mem_nil, Option.some.injEq,
        false_iff, not_and, not_not]
      rintro rfl
      exact own
    · simp only [nonempty, own, decide_false, Bool.or_self, Bool.false_eq_true, if_false,
        List.mem_singleton, Option.some.injEq]
      constructor
      · rintro rfl
        exact ⟨rfl, own⟩
      · rintro ⟨rfl, _⟩
        rfl

theorem ne_qualify_of_mem_importInto {package typeName imported : String}
    (member : imported ∈ importInto package typeName) :
    imported ≠ qualify package (simpleName imported) := by
  obtain ⟨needed, foreign⟩ := mem_importInto_iff.mp member
  have qualified := (importOf_eq_some needed).1
  have pointless := not_mem_simpleName qualified
  intro same
  unfold qualify at same
  split at same
  · exact pointless (same ▸ (isQualified_iff.mp qualified).1)
  · refine foreign ?_
    rw [same, splitType_append package pointless]

theorem mem_importInto_of_qualified {typeName : String} (package : String)
    (qualified : isQualified typeName) :
    typeName ∈ importInto package typeName ∨ (splitType typeName).1 = package ∨
      (splitType typeName).1 = "java.lang" := by
  rw [mem_importInto_iff]
  by_cases language : (splitType typeName).1 = "java.lang"
  · exact Or.inr (Or.inr language)
  · by_cases own : (splitType typeName).1 = package
    · exact Or.inr (Or.inl own)
    · exact Or.inl ⟨by simp [importOf, qualified, language], own⟩

def ownerOf (owners : Owners) (typeNames : List String) (simple : String) : Option String :=
  (owners.lookup simple).or
    ((typeNames.find? fun typeName => simpleName typeName == simple).map canonicalName)

def spelling (owner : Option String) (typeName : String) : String :=
  if owner = some (canonicalName typeName) then simpleName typeName else typeName

theorem ownerOf_held {owners : Owners} {typeName owner : String} (rest : List String)
    (held : owners.lookup (simpleName typeName) = some owner) (simple : String) :
    ownerOf owners (typeName :: rest) simple = ownerOf owners rest simple := by
  unfold ownerOf
  by_cases same : simpleName typeName = simple
  · simp [← same, held]
  · simp [beq_eq_false_iff_ne.mpr same]

theorem ownerOf_free {owners : Owners} {typeName : String} (rest : List String)
    (free : owners.lookup (simpleName typeName) = none) (simple : String) :
    ownerOf owners (typeName :: rest) simple =
      ownerOf ((simpleName typeName, canonicalName typeName) :: owners) rest simple := by
  unfold ownerOf
  by_cases same : simpleName typeName = simple
  · simp [← same, free]
  · simp [List.lookup_cons, beq_eq_false_iff_ne.mpr same,
      beq_eq_false_iff_ne.mpr (Ne.symm same)]

/-- Claiming one after the other, types find the owners that stand for the whole file. -/
theorem claim_eq (package : String) (typeNames : List String) (owners : Owners) :
    claim package owners typeNames =
      { written := typeNames.map fun typeName =>
          (typeName, spelling (ownerOf owners typeNames (simpleName typeName)) typeName)
        imports := typeNames.flatMap fun typeName =>
          if ownerOf owners typeNames (simpleName typeName) = some (canonicalName typeName) then
            importInto package typeName
          else [] } := by
  -- A type that claims its simple name is the first in `typeNames` to do so, so that taking it
  -- over into `owners` changes no owner.
  induction typeNames generalizing owners with
  | nil => rfl
  | cons typeName rest ih =>
    simp only [claim, List.map_cons, List.flatMap_cons]
    cases held : owners.lookup (simpleName typeName) with
    | some owner =>
      have own : ownerOf owners rest (simpleName typeName) = some owner := by simp [ownerOf, held]
      simp only [ih, ownerOf_held rest held, own, Option.some.injEq, spelling]
      split
      · rfl
      · simp
    | none =>
      have own : ownerOf ((simpleName typeName, canonicalName typeName) :: owners) rest
          (simpleName typeName) = some (canonicalName typeName) := by
        simp [ownerOf]
      simp only [ih, ownerOf_free rest held, own, spelling, if_true]

theorem mem_firstOccurrences {name : String} {names seen : List String} :
    name ∈ firstOccurrences seen names ↔ name ∈ names ∧ name ∉ seen := by
  induction names generalizing seen with
  | nil => simp [firstOccurrences]
  | cons head rest ih =>
    simp only [firstOccurrences, List.contains_iff_mem, List.mem_cons]
    split
    · next known =>
      rw [ih]
      constructor
      · rintro ⟨member, fresh⟩
        exact ⟨Or.inr member, fresh⟩
      · rintro ⟨rfl | member, fresh⟩
        · exact absurd known fresh
        · exact ⟨member, fresh⟩
    · next fresh =>
      rw [List.mem_cons, ih, List.mem_cons, not_or]
      by_cases same : name = head
      · simp [same, fresh]
      · simp [same]

theorem mem_claimOrder {typeName : String} {typeNames : List String} :
    typeName ∈ claimOrder typeNames ↔ typeName ∈ typeNames := by
  simp only [claimOrder, List.mem_append, List.mem_filter, mem_firstOccurrences]
  cases isQualified typeName <;> simp

def fileOwner (typeNames reserved : List String) (simple : String) : Option String :=
  ownerOf (reservedOwners reserved) (claimOrder typeNames) simple

theorem lookup_written_resolve {typeNames : List String} (package : String) (reserved : List String)
    {typeName : String} (member : typeName ∈ typeNames) :
    (resolve typeNames package reserved).written.lookup typeName =
      some (spelling (fileOwner typeNames reserved (simpleName typeName)) typeName) := by
  simp only [resolve, claim_eq]
  exact List.lookup_graph
    (fun name => spelling (fileOwner typeNames reserved (simpleName name)) name)
    (mem_claimOrder.mpr member)

theorem mem_imports_resolve {typeNames reserved : List String} {package imported : String} :
    imported ∈ (resolve typeNames package reserved).imports ↔
      ∃ typeName ∈ typeNames,
        fileOwner typeNames reserved (simpleName typeName) = some (canonicalName typeName) ∧
          imported ∈ importInto package typeName := by
  simp only [resolve, claim_eq, mem_ascending, List.mem_flatMap, mem_claimOrder,
    List.mem_ite_nil_right, fileOwner]

end Source

end SqlScaffold
