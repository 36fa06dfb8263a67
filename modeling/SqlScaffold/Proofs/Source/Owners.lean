import SqlScaffold.Proofs.Keyed
import SqlScaffold.Proofs.Source.Imports

/-!
The owner of a simple name, told from the lists alone: the last reserved name of that simple name,
or else the first type to claim it. Owners decide everything that `resolve` answers, and only an
unqualified name that lost its simple name to a reserved one can be mistaken for another type.
-/

namespace SqlScaffold.Source

def lastReserved? (reserved : List String) (simple : String) : Option String :=
  reserved.reverse.find? fun name => simpleName name == simple

def firstClaimant? (typeNames : List String) (simple : String) : Option String :=
  (typeNames.filter (fun name => !isQualified name) ++ typeNames.filter isQualified).find?
    fun name => simpleName name == simple

def owner? (typeNames reserved : List String) (simple : String) : Option String :=
  ((lastReserved? reserved simple).or (firstClaimant? typeNames simple)).map canonicalName

/-- An unqualified name whose simple name is reserved for another type. -/
def IsDisplaced (reserved : List String) (typeName : String) : Prop :=
  isQualified typeName = false ∧ ∃ name, lastReserved? reserved (simpleName typeName) = some name ∧
    canonicalName name ≠ canonicalName typeName

structure IsResolution (typeNames : List String) (package : String) (reserved : List String)
    (references : References) : Prop where
  keysDistinct : (references.written.map Prod.fst).Nodup
  mem_keys : ∀ typeName, typeName ∈ references.written.map Prod.fst ↔ typeName ∈ typeNames
  spelled : ∀ typeName ∈ typeNames, references.written.lookup typeName =
    some (if owner? typeNames reserved (simpleName typeName) = some (canonicalName typeName) then
      simpleName typeName else typeName)
  apart : ∀ first ∈ typeNames, ∀ second ∈ typeNames, canonicalName first ≠ canonicalName second →
    references.written.lookup first = references.written.lookup second →
      IsDisplaced reserved first ∨ IsDisplaced reserved second
  short : ∀ typeName, (∀ name ∈ reserved, simpleName name ≠ simpleName typeName) →
    firstClaimant? typeNames (simpleName typeName) = some typeName →
      references.written.lookup typeName = some (simpleName typeName)
  mem_imports : ∀ imported, imported ∈ references.imports ↔ ∃ typeName ∈ typeNames,
    owner? typeNames reserved (simpleName typeName) = some (canonicalName typeName) ∧
      importOf typeName = some imported ∧ (splitType imported).1 ≠ package
  importsApart : (references.imports.map simpleName).Nodup

/-! The lists that the claims run through -/

theorem find?_firstOccurrences {wanted : String → Bool} {seen : List String}
    (unwanted : ∀ name ∈ seen, wanted name = false) (names : List String) :
    (firstOccurrences seen names).find? wanted = names.find? wanted := by
  induction names generalizing seen with
  | nil => rfl
  | cons head rest ih =>
    simp only [firstOccurrences, List.contains_iff_mem]
    split
    · next known => rw [ih unwanted, List.find?_cons_of_neg (by simp [unwanted head known])]
    · by_cases here : wanted head = true
      · rw [List.find?_cons_of_pos here, List.find?_cons_of_pos here]
      · rw [List.find?_cons_of_neg here, List.find?_cons_of_neg here]
        refine ih ?_
        intro name member
        rcases List.mem_cons.mp member with rfl | earlier
        · simpa using here
        · exact unwanted name earlier

theorem nodup_firstOccurrences (seen names : List String) :
    (firstOccurrences seen names).Nodup := by
  induction names generalizing seen with
  | nil => simp [firstOccurrences]
  | cons head rest ih =>
    simp only [firstOccurrences, List.contains_iff_mem]
    split
    · exact ih seen
    · refine List.nodup_cons.mpr ⟨?_, ih (head :: seen)⟩
      intro again
      exact (mem_firstOccurrences.mp again).2 List.mem_cons_self

theorem nodup_claimOrder (typeNames : List String) : (claimOrder typeNames).Nodup := by
  have halves : (claimOrder typeNames).Perm (firstOccurrences [] typeNames) :=
    List.perm_append_comm.trans (List.filter_append_perm isQualified _)
  exact halves.nodup_iff.mpr (nodup_firstOccurrences [] typeNames)

theorem claimant?_eq (typeNames : List String) (simple : String) :
    claimant? typeNames simple = firstClaimant? typeNames simple := by
  simp only [claimant?, claimOrder, firstClaimant?, List.find?_append, List.find?_filter]
  rw [find?_firstOccurrences (by simp), find?_firstOccurrences (by simp)]

/-- Unqualified names are their own simple names, so that each of them claims its own. -/
theorem find?_unqualified {typeNames : List String} {simple typeName : String} :
    (typeNames.filter fun name => !isQualified name).find? (fun name => simpleName name == simple) =
        some typeName ↔
      typeName ∈ typeNames ∧ isQualified typeName = false ∧ typeName = simple := by
  have plain : ∀ name ∈ typeNames.filter fun name => !isQualified name,
      name ∈ typeNames ∧ isQualified name = false := by simp
  constructor
  · intro found
    obtain ⟨listed, unqualified⟩ := plain typeName (List.mem_of_find?_eq_some found)
    have named : simpleName typeName = simple := by simpa using List.find?_some found
    exact ⟨listed, unqualified, by rw [← named, simpleName_of_not_isQualified unqualified]⟩
  · rintro ⟨listed, unqualified, rfl⟩
    have named : (simpleName typeName == typeName) = true := by simp [unqualified]
    have inside : typeName ∈ typeNames.filter fun name => !isQualified name := by
      simp [listed, unqualified]
    cases found : (typeNames.filter fun name => !isQualified name).find?
        fun name => simpleName name == typeName with
    | none => exact absurd named (List.find?_eq_none.mp found typeName inside)
    | some other =>
      obtain ⟨_, otherUnqualified⟩ := plain other (List.mem_of_find?_eq_some found)
      have same : simpleName other = typeName := by simpa using List.find?_some found
      rw [simpleName_of_not_isQualified otherUnqualified] at same
      rw [same]

theorem firstClaimant?_of_unqualified {typeNames : List String} {typeName : String}
    (listed : typeName ∈ typeNames) (unqualified : isQualified typeName = false) :
    firstClaimant? typeNames typeName = some typeName := by
  rw [firstClaimant?, List.find?_append, find?_unqualified.mpr ⟨listed, unqualified, rfl⟩]
  rfl

theorem mem_of_firstClaimant? {typeNames : List String} {simple typeName : String}
    (first : firstClaimant? typeNames simple = some typeName) : typeName ∈ typeNames := by
  have member := List.mem_of_find?_eq_some first
  simp only [List.mem_append, List.mem_filter] at member
  exact member.elim And.left And.left

/-! Owners as `resolve` finds them -/

theorem lookup_reservedOwners_eq (reserved : List String) (simple : String) :
    (reservedOwners reserved).lookup simple = (lastReserved? reserved simple).map canonicalName := by
  rw [reservedOwners_eq, ← List.map_reverse, lastReserved?]
  induction reserved.reverse with
  | nil => rfl
  | cons name rest ih =>
    rw [List.map_cons, List.lookup_cons, ih, List.find?_cons, BEq.comm]
    cases simpleName name == simple <;> rfl

theorem fileOwner_eq (typeNames reserved : List String) (simple : String) :
    fileOwner typeNames reserved simple = owner? typeNames reserved simple := by
  have claimed : ((claimOrder typeNames).find? fun name => simpleName name == simple) =
      firstClaimant? typeNames simple := claimant?_eq typeNames simple
  rw [fileOwner, ownerOf, lookup_reservedOwners_eq, claimed, owner?, Option.map_or]

theorem owner?_of_unreserved {typeNames reserved : List String} {simple : String}
    (unreserved : ∀ name ∈ reserved, simpleName name ≠ simple) :
    owner? typeNames reserved simple = (firstClaimant? typeNames simple).map canonicalName := by
  rw [← fileOwner_eq, fileOwner_of_unreserved typeNames unreserved, claimant?_eq]

theorem isDisplaced_of_owner? {typeNames reserved : List String} {typeName : String}
    (listed : typeName ∈ typeNames) (unqualified : isQualified typeName = false)
    (unowned : owner? typeNames reserved (simpleName typeName) ≠ some (canonicalName typeName)) :
    IsDisplaced reserved typeName := by
  refine ⟨unqualified, ?_⟩
  cases held : lastReserved? reserved (simpleName typeName) with
  | none =>
    refine absurd ?_ unowned
    rw [owner?, held, simpleName_of_not_isQualified unqualified,
      firstClaimant?_of_unqualified listed unqualified]
    rfl
  | some name =>
    refine ⟨name, rfl, ?_⟩
    intro same
    refine unowned ?_
    rw [owner?, held, ← same]
    rfl

section Resolve

variable {typeNames reserved : List String} {package : String}

theorem keys_resolve :
    (resolve typeNames package reserved).written.map Prod.fst = claimOrder typeNames := by
  simp [resolve, claim_eq, Function.comp_def]

theorem lookup_resolve {typeName : String} (listed : typeName ∈ typeNames) :
    (resolve typeNames package reserved).written.lookup typeName =
      some (spelling (owner? typeNames reserved (simpleName typeName)) typeName) := by
  rw [lookup_written_resolve package reserved listed, fileOwner_eq]

theorem lookup_resolve_of_not_mem {typeName : String} (unlisted : typeName ∉ typeNames) :
    (resolve typeNames package reserved).written.lookup typeName = none := by
  rw [Keyed.lookup_eq_none_iff, keys_resolve, mem_claimOrder]
  exact unlisted

theorem mem_imports_iff {imported : String} :
    imported ∈ (resolve typeNames package reserved).imports ↔ ∃ typeName ∈ typeNames,
      owner? typeNames reserved (simpleName typeName) = some (canonicalName typeName) ∧
        importOf typeName = some imported ∧ (splitType imported).1 ≠ package := by
  simp only [mem_imports_resolve, fileOwner_eq, mem_importInto_iff]

theorem owner?_of_mem_imports {imported : String}
    (member : imported ∈ (resolve typeNames package reserved).imports) :
    owner? typeNames reserved (simpleName imported) = some imported := by
  rw [← fileOwner_eq]
  exact fileOwner_of_mem_resolve member

theorem nodup_simpleName_imports :
    ((resolve typeNames package reserved).imports.map simpleName).Nodup := by
  have distinct : (resolve typeNames package reserved).imports.Nodup := (pairwise_ascending _).nodup
  refine distinct.map_on ?_
  intro first here second there same
  have owned := owner?_of_mem_imports here
  rw [same, owner?_of_mem_imports there] at owned
  exact (Option.some.inj owned).symm

theorem isDisplaced_of_simpleName_eq {first second : String} (listed : second ∈ typeNames)
    (unowned : owner? typeNames reserved (simpleName second) ≠ some (canonicalName second))
    (different : first ≠ second) (same : simpleName first = second) :
    IsDisplaced reserved second := by
  refine isDisplaced_of_owner? listed ?_ unowned
  -- A qualified name has a point, and no simple name has one but that of an unqualified name.
  by_contra qualified
  rw [Bool.not_eq_false] at qualified
  by_cases points : isQualified first
  · exact not_mem_simpleName points (same ▸ (isQualified_iff.mp qualified).1)
  · rw [simpleName_of_not_isQualified (by simpa using points)] at same
    exact different same

theorem isDisplaced_of_lookup_eq {first second : String} (here : first ∈ typeNames)
    (there : second ∈ typeNames) (different : canonicalName first ≠ canonicalName second)
    (same : (resolve typeNames package reserved).written.lookup first =
      (resolve typeNames package reserved).written.lookup second) :
    IsDisplaced reserved first ∨ IsDisplaced reserved second := by
  have apart : first ≠ second := fun equal => different (congrArg canonicalName equal)
  rw [lookup_resolve here, lookup_resolve there, Option.some.injEq] at same
  unfold spelling at same
  split at same
  · next firstOwns =>
    split at same
    · next secondOwns =>
      rw [same, secondOwns, Option.some.injEq] at firstOwns
      exact absurd firstOwns.symm different
    · next secondFails => exact Or.inr (isDisplaced_of_simpleName_eq there secondFails apart same)
  · next firstFails =>
    split at same
    · exact Or.inl (isDisplaced_of_simpleName_eq here firstFails apart.symm same.symm)
    · exact absurd same apart

end Resolve

/-- For every list of types, every package and every list of reserved names, each simple name has
one owner: it alone is written short and imported. -/
theorem isResolution_resolve (typeNames : List String) (package : String)
    (reserved : List String) :
    IsResolution typeNames package reserved (resolve typeNames package reserved) where
  keysDistinct := by
    rw [keys_resolve]
    exact nodup_claimOrder typeNames
  mem_keys := by
    intro typeName
    rw [keys_resolve, mem_claimOrder]
  spelled := fun _ listed => lookup_resolve listed
  apart := fun _ here _ there => isDisplaced_of_lookup_eq here there
  short := by
    intro typeName unreserved first
    have owned : owner? typeNames reserved (simpleName typeName) = some (canonicalName typeName) := by
      rw [owner?_of_unreserved unreserved, first]
      rfl
    rw [lookup_resolve (mem_of_firstClaimant? first), spelling, if_pos owned]
  mem_imports := fun _ => mem_imports_iff
  importsApart := nodup_simpleName_imports

end SqlScaffold.Source
