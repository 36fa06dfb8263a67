import Mathlib.Data.List.Find
import Mathlib.Data.List.Sort
import SqlScaffold.Proofs.Source.Owners

/-!
What the spellings and imports of a file hang on: the set of its types, the order in which the
qualified ones first come up, and the set of reserved names. Types that are added at the end change
nothing for those that were there.
-/

namespace SqlScaffold.Source

structure AreSame (first second : References) : Prop where
  written : ∀ typeName, first.written.lookup typeName = second.written.lookup typeName
  imports : first.imports = second.imports

structure AreLike (typeNames others : List String) : Prop where
  mem_iff : ∀ name, name ∈ typeNames ↔ name ∈ others
  ordered : ∀ first ∈ typeNames, ∀ second ∈ typeNames, isQualified first → isQualified second →
    (typeNames.idxOf first < typeNames.idxOf second ↔ others.idxOf first < others.idxOf second)

structure Keeps (typeNames : List String) (before after : References) : Prop where
  written : ∀ typeName ∈ typeNames, after.written.lookup typeName = before.written.lookup typeName
  imports : ∀ imported ∈ before.imports, imported ∈ after.imports

theorem idxOf_le_of_find? {names : List String} {wanted : String → Bool} {first other : String}
    (found : names.find? wanted = some first) (member : other ∈ names) (also : wanted other) :
    names.idxOf first ≤ names.idxOf other := by
  induction names with
  | nil => cases member
  | cons head rest ih =>
    by_cases here : wanted head = true
    · rw [List.find?_cons_of_pos here, Option.some.injEq] at found
      simp [found]
    · rw [List.find?_cons_of_neg here] at found
      have headFirst : head ≠ first := by
        rintro rfl
        exact here (List.find?_some found)
      have headOther : head ≠ other := by
        rintro rfl
        exact here also
      rw [List.idxOf_cons_ne rest headFirst, List.idxOf_cons_ne rest headOther]
      exact Nat.succ_le_succ (ih found ((List.mem_cons.mp member).resolve_left headOther.symm))

/-- Where the wanted names first come up in the same order, the same of them is found first. -/
theorem find?_eq_find?_of_ordered {names others : List String} {wanted : String → Bool}
    (same : ∀ name, name ∈ names ↔ name ∈ others)
    (ordered : ∀ first ∈ names, ∀ second ∈ names, wanted first → wanted second →
      (names.idxOf first < names.idxOf second ↔ others.idxOf first < others.idxOf second)) :
    names.find? wanted = others.find? wanted := by
  cases found : names.find? wanted with
  | none =>
    symm
    rw [List.find?_eq_none] at found ⊢
    exact fun name member => found name ((same name).mpr member)
  | some first =>
    have listed := List.mem_of_find?_eq_some found
    have fits := List.find?_some found
    cases foundThere : others.find? wanted with
    | none => exact absurd fits (List.find?_eq_none.mp foundThere first ((same first).mp listed))
    | some second =>
      have listedThere := List.mem_of_find?_eq_some foundThere
      have fitsToo := List.find?_some foundThere
      have secondListed := (same second).mpr listedThere
      -- Neither comes up before the other in the list where the other is found.
      have here : names.idxOf first ≤ names.idxOf second :=
        idxOf_le_of_find? found secondListed fitsToo
      have there : others.idxOf second ≤ others.idxOf first :=
        idxOf_le_of_find? foundThere ((same first).mp listed) fits
      have order := ordered second secondListed first listed fitsToo fits
      have equal : others.idxOf second = others.idxOf first := by omega
      rw [List.idxOf_inj listedThere] at equal
      rw [equal]

theorem firstClaimant?_eq {typeNames others : List String} (like : AreLike typeNames others)
    (simple : String) : firstClaimant? typeNames simple = firstClaimant? others simple := by
  have unqualified : (typeNames.filter fun name => !isQualified name).find?
        (fun name => simpleName name == simple) =
      (others.filter fun name => !isQualified name).find? fun name => simpleName name == simple := by
    refine Option.ext fun typeName => ?_
    rw [find?_unqualified, find?_unqualified, like.mem_iff]
  have qualified : (typeNames.filter isQualified).find? (fun name => simpleName name == simple) =
      (others.filter isQualified).find? fun name => simpleName name == simple := by
    rw [List.find?_filter, List.find?_filter]
    refine find?_eq_find?_of_ordered like.mem_iff ?_
    intro first here second there fits fitsToo
    simp only [decide_eq_true_eq] at fits fitsToo
    exact like.ordered first here second there fits.1 fitsToo.1
  rw [firstClaimant?, firstClaimant?, List.find?_append, List.find?_append, unqualified, qualified]

theorem lastReserved?_eq {reserved further : List String} (shuffled : reserved.Perm further)
    (distinct : (reserved.map simpleName).Nodup) (simple : String) :
    lastReserved? reserved simple = lastReserved? further simple := by
  refine List.find?_eq_find?_of_perm ?_ ?_
  · exact (reserved.reverse_perm.trans shuffled).trans further.reverse_perm.symm
  · rintro first ⟨here, fits⟩ second ⟨there, fitsToo⟩
    rw [List.mem_reverse] at here there
    have same : simpleName first = simpleName second :=
      (beq_iff_eq.mp fits).trans (beq_iff_eq.mp fitsToo).symm
    exact List.inj_on_of_nodup_map distinct here there same

theorem areSame_resolve {typeNames others reserved further : List String} (package : String)
    (same : ∀ name, name ∈ typeNames ↔ name ∈ others)
    (owners : ∀ simple, owner? typeNames reserved simple = owner? others further simple) :
    AreSame (resolve typeNames package reserved) (resolve others package further) where
  written := by
    intro typeName
    by_cases listed : typeName ∈ typeNames
    · rw [lookup_resolve listed, lookup_resolve ((same typeName).mp listed), owners]
    · rw [lookup_resolve_of_not_mem listed,
        lookup_resolve_of_not_mem (mt (same typeName).mpr listed)]
  imports := by
    refine (pairwise_ascending _).eq_of_mem_iff (pairwise_ascending _) ?_
    intro imported
    change imported ∈ (resolve typeNames package reserved).imports ↔
      imported ∈ (resolve others package further).imports
    simp only [mem_imports_iff, same, owners]

section Added

variable {typeNames added : List String} (qualified : ∀ name ∈ added, isQualified name)

include qualified

theorem firstClaimant?_append (simple : String) :
    firstClaimant? (typeNames ++ added) simple =
      (firstClaimant? typeNames simple).or (added.find? fun name => simpleName name == simple) := by
  have unlisted : added.filter (fun name => !isQualified name) = [] := by
    rw [List.filter_eq_nil_iff]
    intro name member
    simp [qualified name member]
  have all : added.filter isQualified = added := List.filter_eq_self.mpr qualified
  rw [firstClaimant?, List.filter_append, List.filter_append, unlisted, all, List.append_nil,
    ← List.append_assoc, List.find?_append, firstClaimant?]

theorem owner?_append (reserved : List String) {typeName : String} (listed : typeName ∈ typeNames) :
    owner? (typeNames ++ added) reserved (simpleName typeName) =
      owner? typeNames reserved (simpleName typeName) := by
  have claimed : (firstClaimant? typeNames (simpleName typeName)).isSome := by
    rw [firstClaimant?, List.find?_isSome]
    refine ⟨typeName, ?_, beq_self_eq_true _⟩
    cases points : isQualified typeName <;> simp [listed, points]
  obtain ⟨first, found⟩ := Option.isSome_iff_exists.mp claimed
  rw [owner?, owner?, firstClaimant?_append qualified, found, Option.some_or]

theorem keeps_resolve_append (package : String) (reserved : List String) :
    Keeps typeNames (resolve typeNames package reserved)
      (resolve (typeNames ++ added) package reserved) where
  written := by
    intro typeName listed
    rw [lookup_resolve listed, lookup_resolve (List.mem_append_left added listed),
      owner?_append qualified reserved listed]
  imports := by
    intro imported member
    obtain ⟨typeName, listed, owned, needed⟩ := mem_imports_iff.mp member
    refine mem_imports_iff.mpr ⟨typeName, List.mem_append_left added listed, ?_, needed⟩
    rw [owner?_append qualified reserved listed, owned]

end Added

/-- Repeated types, the places of unqualified ones and the order of reserved names change nothing,
and qualified types that are added at the end change nothing for the others. -/
theorem resolve_stable (typeNames : List String) (package : String) (reserved : List String) :
    (∀ others further, AreLike typeNames others → reserved.Perm further →
      (reserved.map simpleName).Nodup →
        AreSame (resolve typeNames package reserved) (resolve others package further)) ∧
    ∀ added, (∀ name ∈ added, isQualified name) →
      Keeps typeNames (resolve typeNames package reserved)
        (resolve (typeNames ++ added) package reserved) := by
  constructor
  · intro others further like shuffled distinct
    refine areSame_resolve package like.mem_iff fun simple => ?_
    rw [owner?, owner?, lastReserved?_eq shuffled distinct, firstClaimant?_eq like]
  · intro added qualified
    exact keeps_resolve_append qualified package reserved

theorem resolve_stable_dates :
    let typeNames := ["java.util.Date", "Order", "java.sql.Date", "Order", "UUID"]
    let others := ["UUID", "Order", "java.util.Date", "java.util.Date", "java.sql.Date"]
    let reserved := ["java.sql.JDBCType", "org.acme.Order"]
    let further := ["org.acme.Order", "java.sql.JDBCType"]
    let added := ["org.acme.UUID", "org.acme.Date"]
    (AreLike typeNames others ∧ reserved.Perm further ∧ (reserved.map simpleName).Nodup ∧
      AreSame (resolve typeNames "org.acme" reserved) (resolve others "org.acme" further)) ∧
    (∀ name ∈ added, isQualified name) ∧
      Keeps typeNames (resolve typeNames "org.acme" reserved)
        (resolve (typeNames ++ added) "org.acme" reserved) := by
  intro typeNames others reserved further added
  have like : AreLike typeNames others :=
    { mem_iff := by
        intro name
        simp only [typeNames, others, List.mem_cons, List.not_mem_nil, or_false]
        tauto
      ordered := by decide +kernel }
  have shuffled : reserved.Perm further := List.Perm.swap _ _ _
  have distinct : (reserved.map simpleName).Nodup := by decide +kernel
  have qualified : ∀ name ∈ added, isQualified name := by decide +kernel
  have stable := resolve_stable typeNames "org.acme" reserved
  exact ⟨⟨like, shuffled, distinct, stable.1 others further like shuffled distinct⟩,
    qualified, stable.2 added qualified⟩

end SqlScaffold.Source
