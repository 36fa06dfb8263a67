import Mathlib.Data.List.Nodup
import SqlScaffold.Proofs.Source.TypeName

/-!
Imports of a unit: some that are fixed, and those of the types that it refers to. Whatever a unit
imports owns its simple name there, so no two imports share one; whether a name of the unit's own
is free of imports hangs on what is reserved and on who claims it first.
-/

namespace SqlScaffold.Source

def Consistent (names : List String) : Prop :=
  ∀ first ∈ names, ∀ second ∈ names, simpleName first = simpleName second →
    canonicalName first = canonicalName second

theorem Consistent.of_guard {fixed reserved : List String} (guard : String)
    (consistent : Consistent fixed) (apart : ∀ name ∈ fixed, simpleName name ≠ simpleName guard)
    (either : ∀ name ∈ reserved, name ∈ fixed ∨ name = guard) : Consistent reserved := by
  intro first here second there same
  rcases either first here with firstFixed | rfl
  · rcases either second there with secondFixed | rfl
    · exact consistent first firstFixed second secondFixed same
    · exact absurd same (apart first firstFixed)
  · rcases either second there with secondFixed | rfl
    · exact absurd same.symm (apart second secondFixed)
    · rfl

structure IsVocabulary (imports simpleNames : List String) : Prop where
  qualified : ∀ imported ∈ imports, isQualified imported
  named : imports.map simpleName = simpleNames
  distinct : simpleNames.Nodup

namespace IsVocabulary

variable {imports simpleNames fixed reserved : List String} {entity : String}

variable (vocabulary : IsVocabulary imports simpleNames)
  (known : ∀ imported ∈ fixed, imported ∈ imports)

include vocabulary known

theorem qualified_of_known : ∀ imported ∈ fixed, isQualified imported :=
  fun imported member => vocabulary.qualified imported (known imported member)

theorem simpleName_mem : ∀ imported ∈ fixed, simpleName imported ∈ simpleNames := by
  intro imported member
  rw [← vocabulary.named]
  exact List.mem_map_of_mem (known imported member)

theorem consistent : Consistent fixed := by
  intro first here second there same
  have unique := vocabulary.distinct
  rw [← vocabulary.named] at unique
  exact congrArg canonicalName
    (List.inj_on_of_nodup_map unique (known first here) (known second there) same)

/-- The name of an entity is told apart from the simple names of fixed imports, even where a package
is so odd that the entity's full name is no qualified one. -/
theorem apart_of_unfixed (package : String) (word : isWord entity.toList)
    (unfixed : ∀ imported ∈ fixed, simpleName imported ≠ entity) :
    ∀ imported ∈ fixed, simpleName imported ≠ simpleName (qualify package entity) := by
  have pointless : '.' ∉ entity.toList := not_mem_of_isWord word (by decide) (by decide)
  intro imported member same
  by_cases proper : isQualified (qualify package entity)
  · exact unfixed imported member (same.trans (simpleName_qualify package pointless proper))
  · have whole : simpleName (qualify package entity) = qualify package entity :=
      simpleName_of_not_isQualified (by simpa using proper)
    rw [whole] at same
    unfold qualify at same
    split at same
    · exact unfixed imported member same
    · exact not_mem_simpleName (vocabulary.qualified_of_known known imported member)
        (by simp [same])

theorem consistent_of_entity (package : String) (word : isWord entity.toList)
    (unfixed : ∀ imported ∈ fixed, simpleName imported ≠ entity)
    (either : ∀ name ∈ reserved, name ∈ fixed ∨ name = qualify package entity) :
    Consistent reserved :=
  .of_guard (qualify package entity) (vocabulary.consistent known)
    (vocabulary.apart_of_unfixed known package word unfixed) either

end IsVocabulary

theorem reservedOwners_eq (names : List String) :
    reservedOwners names =
      (names.map fun name => (simpleName name, canonicalName name)).reverse := by
  have general : ∀ owners, names.foldl reserve owners =
      (names.map fun name => (simpleName name, canonicalName name)).reverse ++ owners := by
    induction names with
    | nil => intro owners; rfl
    | cons name rest ih => intro owners; simp [ih, reserve]
  exact (general []).trans (List.append_nil _)

theorem lookup_reservedOwners_eq_none_iff {names : List String} {simple : String} :
    (reservedOwners names).lookup simple = none ↔ ∀ name ∈ names, simpleName name ≠ simple := by
  rw [reservedOwners_eq, List.lookup_eq_none_iff]
  simp [Ne, eq_comm (a := simple)]

theorem of_lookup_reservedOwners {names : List String} {simple owner : String}
    (held : (reservedOwners names).lookup simple = some owner) :
    ∃ name ∈ names, simpleName name = simple ∧ canonicalName name = owner := by
  obtain ⟨before, after, split, _⟩ := List.lookup_eq_some_iff.mp held
  have member : (simple, owner) ∈ reservedOwners names := by simp [split]
  simpa [reservedOwners_eq] using member

theorem lookup_reservedOwners {names : List String} (consistent : Consistent names) {name : String}
    (member : name ∈ names) :
    (reservedOwners names).lookup (simpleName name) = some (canonicalName name) := by
  cases held : (reservedOwners names).lookup (simpleName name) with
  | none => exact absurd rfl (lookup_reservedOwners_eq_none_iff.mp held name member)
  | some owner =>
    obtain ⟨other, inside, simple, canonical⟩ := of_lookup_reservedOwners held
    rw [← canonical, consistent other inside name member simple]

/-- What is imported for a type that owns its simple name owns that name in turn. -/
theorem fileOwner_of_mem_resolve {typeNames reserved : List String} {package imported : String}
    (member : imported ∈ (resolve typeNames package reserved).imports) :
    fileOwner typeNames reserved (simpleName imported) = some imported := by
  obtain ⟨typeName, _, owned, needed⟩ := mem_imports_resolve.mp member
  obtain ⟨_, simple, canonical⟩ := importOf_eq_some (mem_importInto_iff.mp needed).1
  rw [simple, owned, canonical]

def claimant? (typeNames : List String) (simple : String) : Option String :=
  (claimOrder typeNames).find? fun typeName => simpleName typeName == simple

theorem simpleName_of_claimant {typeNames : List String} {simple typeName : String}
    (first : claimant? typeNames simple = some typeName) : simpleName typeName = simple := by
  simpa using List.find?_some first

/-- No import has a simple name with a point in it. -/
theorem importInto_of_claimant_pointed (package : String) {typeNames : List String}
    {simple typeName : String} (first : claimant? typeNames simple = some typeName)
    (pointed : '.' ∈ simple.toList) : importInto package typeName = [] := by
  rw [List.eq_nil_iff_forall_not_mem]
  intro imported needed
  obtain ⟨qualified, same, _⟩ := importOf_eq_some (mem_importInto_iff.mp needed).1
  exact not_mem_simpleName qualified (by rwa [same, simpleName_of_claimant first])

theorem fileOwner_of_reserved {reserved : List String} (typeNames : List String)
    (consistent : Consistent reserved) {name : String} (member : name ∈ reserved) :
    fileOwner typeNames reserved (simpleName name) = some (canonicalName name) := by
  simp [fileOwner, ownerOf, lookup_reservedOwners consistent member]

theorem fileOwner_of_unreserved {reserved : List String} (typeNames : List String) {simple : String}
    (unreserved : ∀ name ∈ reserved, simpleName name ≠ simple) :
    fileOwner typeNames reserved simple = (claimant? typeNames simple).map canonicalName := by
  simp [fileOwner, ownerOf, claimant?, lookup_reservedOwners_eq_none_iff.mpr unreserved]

/-- A file with some imports refers to a type by the way in which it is written: in full, or by a
simple name that nothing else has. -/
def Refers (imports : List String) (package typeName written : String) : Prop :=
  written = typeName ∨
    written = simpleName typeName ∧
      (typeName ∈ imports ∨ (splitType typeName).1 = package ∨
        (splitType typeName).1 = "java.lang") ∧
      ∀ other ∈ imports, simpleName other = simpleName typeName → other = typeName

def IsFree (imports : List String) (package name : String) : Prop :=
  ∀ imported ∈ imports, simpleName imported = name → imported = qualify package name

/-- What a name that nobody reserved has to meet to be free: a fixed import of that name is the very
type, and without one, the first type to claim the name needs no import. -/
def StaysFree (package : String) (fixed typeNames : List String) (name : String) : Prop :=
  (∀ imported ∈ fixed, simpleName imported = name → imported = qualify package name) ∧
    ((∀ imported ∈ fixed, simpleName imported ≠ name) →
      ∀ typeName, claimant? typeNames name = some typeName → importInto package typeName = [])

structure UnitImports (package : String) (fixed guarded reserved typeNames imports : List String) :
    Prop where
  mem_iff : ∀ imported, imported ∈ imports ↔
    imported ∈ fixed ∨ imported ∈ (resolve typeNames package reserved).imports
  reserved_iff : ∀ name, name ∈ reserved ↔ name ∈ fixed ∨ name ∈ guarded
  qualified : ∀ imported ∈ fixed, isQualified imported
  consistent : Consistent reserved

namespace UnitImports

variable {package : String} {fixed guarded reserved typeNames imports : List String}

variable (unit : UnitImports package fixed guarded reserved typeNames imports)

include unit

theorem mem_of_fixed {imported : String} (standing : imported ∈ fixed) : imported ∈ imports :=
  (unit.mem_iff imported).mpr (Or.inl standing)

theorem mem_of_needed {typeName imported : String} (member : typeName ∈ typeNames)
    (owned : fileOwner typeNames reserved (simpleName typeName) = some (canonicalName typeName))
    (needed : imported ∈ importInto package typeName) : imported ∈ imports :=
  (unit.mem_iff imported).mpr (Or.inr (mem_imports_resolve.mpr ⟨typeName, member, owned, needed⟩))

theorem cases_of_mem {imported : String} (member : imported ∈ imports) :
    imported ∈ fixed ∨ ∃ typeName ∈ typeNames, simpleName typeName = simpleName imported ∧
      fileOwner typeNames reserved (simpleName imported) = some (canonicalName typeName) ∧
        imported ∈ importInto package typeName := by
  rcases (unit.mem_iff imported).mp member with standing | resolved
  · exact Or.inl standing
  · obtain ⟨typeName, inside, owned, needed⟩ := mem_imports_resolve.mp resolved
    obtain ⟨_, simple, _⟩ := importOf_eq_some (mem_importInto_iff.mp needed).1
    exact Or.inr ⟨typeName, inside, simple.symm, simple ▸ owned, needed⟩

theorem qualified_of_mem {imported : String} (member : imported ∈ imports) :
    isQualified imported := by
  rcases unit.cases_of_mem member with standing | ⟨_, _, _, _, needed⟩
  · exact unit.qualified imported standing
  · exact (importOf_eq_some (mem_importInto_iff.mp needed).1).1

theorem owned {imported : String} (member : imported ∈ imports) :
    fileOwner typeNames reserved (simpleName imported) = some imported := by
  rcases (unit.mem_iff imported).mp member with standing | resolved
  · have held := fileOwner_of_reserved typeNames unit.consistent
      ((unit.reserved_iff imported).mpr (Or.inl standing))
    rwa [canonicalName_of_isQualified (unit.qualified imported standing)] at held
  · exact fileOwner_of_mem_resolve resolved

theorem eq_of_simpleName_eq {first second : String} (here : first ∈ imports)
    (there : second ∈ imports) (same : simpleName first = simpleName second) : first = second := by
  have owner := unit.owned here
  rw [same, unit.owned there] at owner
  exact (Option.some.inj owner).symm

theorem refers {typeName : String} (member : typeName ∈ typeNames) :
    Refers imports package typeName
      (spelling (fileOwner typeNames reserved (simpleName typeName)) typeName) := by
  unfold spelling
  split
  · next owned =>
    by_cases qualified : isQualified typeName
    · refine Or.inr ⟨rfl, ?_, ?_⟩
      · exact (mem_importInto_of_qualified package qualified).imp_left
          (unit.mem_of_needed member owned)
      · intro other inside same
        have owner := unit.owned inside
        rw [same, owned, canonicalName_of_isQualified qualified] at owner
        exact (Option.some.inj owner).symm
    · exact Or.inl (simpleName_of_not_isQualified (by simpa using qualified))
  · exact Or.inl rfl

theorem isFree_iff_of_unfixed {name : String}
    (unfixed : ∀ imported ∈ fixed, simpleName imported ≠ name) :
    IsFree imports package name ↔ ∀ typeName ∈ typeNames, simpleName typeName = name →
      fileOwner typeNames reserved name = some (canonicalName typeName) →
        importInto package typeName = [] := by
  constructor
  · rintro free typeName inside rfl owned
    rw [List.eq_nil_iff_forall_not_mem]
    intro imported needed
    have member := unit.mem_of_needed inside owned needed
    obtain ⟨_, simple, _⟩ := importOf_eq_some (mem_importInto_iff.mp needed).1
    exact ne_qualify_of_mem_importInto needed (simple ▸ free imported member simple)
  · rintro unclaimed imported member rfl
    rcases unit.cases_of_mem member with standing | ⟨typeName, inside, simple, owned, needed⟩
    · exact absurd rfl (unfixed imported standing)
    · simp [unclaimed typeName inside simple owned] at needed

theorem isFree_iff_of_guarded {name : String} (held : name ∈ guarded)
    (unfixed : ∀ imported ∈ fixed, simpleName imported ≠ simpleName name) :
    IsFree imports package (simpleName name) ↔ ∀ typeName ∈ typeNames,
      simpleName typeName = simpleName name → canonicalName typeName = canonicalName name →
        importInto package typeName = [] := by
  rw [unit.isFree_iff_of_unfixed unfixed, fileOwner_of_reserved typeNames unit.consistent
    ((unit.reserved_iff name).mpr (Or.inr held))]
  simp only [Option.some.injEq, eq_comm]

theorem isFree_iff_of_unreserved {name : String}
    (unreserved : ∀ other ∈ reserved, simpleName other ≠ name) :
    IsFree imports package name ↔
      ∀ typeName, claimant? typeNames name = some typeName → importInto package typeName = [] := by
  rw [unit.isFree_iff_of_unfixed fun imported standing =>
      unreserved imported ((unit.reserved_iff imported).mpr (Or.inl standing)),
    fileOwner_of_unreserved typeNames unreserved]
  constructor
  · intro unclaimed typeName first
    exact unclaimed typeName (mem_claimOrder.mp (List.mem_of_find?_eq_some first))
      (simpleName_of_claimant first)
      (by rw [first]; rfl)
  · intro unclaimed typeName _ simple owned
    obtain ⟨first, found, canonical⟩ := Option.map_eq_some_iff.mp owned
    rw [importInto_eq_of_canonicalName_eq package canonical.symm]
    exact unclaimed first found

/-- A fixed import settles the matter, since no other import can share its name. -/
theorem isFree_iff_staysFree_of_fixed {imported : String} (held : imported ∈ fixed) :
    IsFree imports package (simpleName imported) ↔
      StaysFree package fixed typeNames (simpleName imported) := by
  constructor
  · intro free
    refine ⟨fun other inside same => free other (unit.mem_of_fixed inside) same, ?_⟩
    intro unfixed
    exact absurd rfl (unfixed imported held)
  · rintro ⟨itself, _⟩ other inside same
    rw [unit.eq_of_simpleName_eq inside (unit.mem_of_fixed held) same]
    exact itself imported held rfl

theorem isFree_of_pointed {name : String} (pointed : '.' ∈ name.toList) :
    IsFree imports package name := by
  rintro imported member rfl
  exact absurd pointed (not_mem_simpleName (unit.qualified_of_mem member))

/-- When a name that is not guarded is free. A name with a point in it is no simple name of any
import, so that it does not matter whether such a name is guarded. -/
theorem isFree_iff_staysFree {name : String}
    (unguarded : ∀ other ∈ guarded, simpleName other = name → '.' ∈ name.toList) :
    IsFree imports package name ↔ StaysFree package fixed typeNames name := by
  by_cases standing : ∃ imported ∈ fixed, simpleName imported = name
  · obtain ⟨imported, held, rfl⟩ := standing
    exact unit.isFree_iff_staysFree_of_fixed held
  · have unfixed : ∀ imported ∈ fixed, simpleName imported ≠ name :=
      fun imported held same => standing ⟨imported, held, same⟩
    have unfixedFree : ∀ imported ∈ fixed, simpleName imported = name →
        imported = qualify package name :=
      fun imported held same => absurd same (unfixed imported held)
    by_cases pointed : '.' ∈ name.toList
    · exact iff_of_true (unit.isFree_of_pointed pointed) ⟨unfixedFree, fun _ _ first =>
        importInto_of_claimant_pointed package first pointed⟩
    · have unreserved : ∀ other ∈ reserved, simpleName other ≠ name := by
        intro other held same
        rcases (unit.reserved_iff other).mp held with inside | guard
        · exact unfixed other inside same
        · exact pointed (unguarded other guard same)
      rw [unit.isFree_iff_of_unreserved unreserved]
      exact ⟨fun nothing => ⟨unfixedFree, fun _ => nothing⟩, fun stays => stays.2 unfixed⟩

end UnitImports

end SqlScaffold.Source
