import SqlScaffold.Proofs.Imports

/-!
Which simple names stay free of imports. Both units keep the name of an entity in a package free. In
the default package only the table support guards it, and it guards no type of that name that is
well known. Every other name goes to the first type that claims it, also the names of the generated
classes themselves.
-/

namespace SqlScaffold

namespace Source

theorem importInto_qualify {package name : String} (pointless : '.' ∉ name.toList)
    (qualified : isQualified (qualify package name)) :
    importInto package (qualify package name) = [] := by
  rw [List.eq_nil_iff_forall_not_mem]
  intro imported needed
  have simple := (importOf_eq_some (mem_importInto_iff.mp needed).1).2
  rw [simpleName_qualify package pointless qualified,
    canonicalName_of_isQualified qualified] at simple
  refine ne_qualify_of_mem_importInto needed ?_
  rw [simple.1, simple.2]

/-- The full name of an entity has no simple name but the entity's, unless that is the whole of it,
with a point behind the package. -/
theorem pointed_of_simpleName_qualify {package entity name : String}
    (pointless : '.' ∉ entity.toList)
    (unguarded : name = entity → package ≠ "" ∧ ¬isQualified (qualify package entity))
    (same : simpleName (qualify package entity) = name) : '.' ∈ name.toList := by
  by_cases qualified : isQualified (qualify package entity)
  · rw [simpleName_qualify package pointless qualified] at same
    exact absurd qualified (unguarded same.symm).2
  · rw [simpleName_of_not_isQualified (by simpa using qualified)] at same
    unfold qualify at same
    split at same
    · next default => exact absurd default (unguarded same.symm).1
    · simp [← same]

/-- In the default package, the types that one name stands for need no import exactly if the name is
not well known, or if nobody refers to the type that it is known for. -/
theorem importInto_default_iff {name : String} (unqualified : isQualified name = false)
    (typeNames : List String) :
    (∀ typeName ∈ typeNames, simpleName typeName = name →
        canonicalName typeName = canonicalName name → importInto "" typeName = []) ↔
      ∀ known, wellKnownTypes.lookup name = some known → name ∉ typeNames ∧ known ∉ typeNames := by
  have needs : importOf name = wellKnownTypes.lookup name := by simp [importOf, unqualified]
  constructor
  · intro unneeded known found
    obtain ⟨qualified, simple, _, packaged⟩ := wellKnown_of_lookup found
    have needed : known ∈ importInto "" name :=
      mem_importInto_iff.mpr ⟨needs.trans found, packaged⟩
    have canonical : canonicalName known = canonicalName name := by
      rw [canonicalName_of_isQualified qualified]
      simp [canonicalName, unqualified, found]
    constructor
    · intro member
      simp [unneeded name member (simpleName_of_not_isQualified unqualified) rfl] at needed
    · intro member
      rw [← importInto_eq_of_canonicalName_eq "" canonical,
        unneeded known member simple canonical] at needed
      cases needed
  · intro absent typeName member simple canonical
    -- A type that the name stands for is written as the name alone or as the known type in full.
    rw [importInto_eq_of_canonicalName_eq "" canonical]
    cases found : wellKnownTypes.lookup name with
    | none => simp [importInto, needs, found]
    | some known =>
      obtain ⟨short, long⟩ := absent known found
      by_cases qualified : isQualified typeName
      · have itself : typeName = known := by
          rw [canonicalName_of_isQualified qualified] at canonical
          simpa [canonicalName, unqualified, found] using canonical
        exact absurd (itself ▸ member) long
      · rw [simpleName_of_not_isQualified (by simpa using qualified)] at simple
        exact absurd (simple ▸ member) short

namespace UnitImports

variable {package entity : String} {fixed guarded reserved typeNames imports : List String}

variable (unit : UnitImports package fixed guarded reserved typeNames imports)
  (pointless : '.' ∉ entity.toList) (unfixed : ∀ imported ∈ fixed, simpleName imported ≠ entity)

include unit pointless

include unfixed in
theorem isFree_of_guarded (held : qualify package entity ∈ guarded)
    (qualified : isQualified (qualify package entity)) : IsFree imports package entity := by
  have simple := simpleName_qualify package pointless qualified
  have free := unit.isFree_iff_of_guarded held (by rwa [simple])
  rw [simple] at free
  refine free.mpr fun typeName _ _ canonical => ?_
  rw [importInto_eq_of_canonicalName_eq package canonical, importInto_qualify pointless qualified]

theorem isFree_iff_of_only (only : ∀ guard ∈ guarded, guard = qualify package entity)
    {name : String}
    (unguarded : name = entity → qualify package entity ∈ guarded →
      package ≠ "" ∧ ¬isQualified (qualify package entity)) :
    IsFree imports package name ↔ StaysFree package fixed typeNames name := by
  refine unit.isFree_iff_staysFree fun guard held same => ?_
  have whole := only guard held
  subst whole
  exact pointed_of_simpleName_qualify pointless (fun itself => unguarded itself held) same

end UnitImports

end Source

open Source

structure SupportNames (model : Model) (support : TableSupport) : Prop where
  entity : isQualified model.qualifiedName → IsFree support.imports model.package model.name
  unpackaged : model.package = "" → (IsFree support.imports model.package model.name ↔
    ∀ known, wellKnownTypes.lookup model.name = some known →
      model.name ∉ support.columns.map Column.valueType ∧
        known ∉ support.columns.map Column.valueType)
  other : ∀ name, (name = model.name → model.package ≠ "" ∧ ¬isQualified model.qualifiedName) →
    (IsFree support.imports model.package name ↔
      StaysFree model.package (TableSupport.fixedImports support.columns)
        (support.columns.map Column.valueType) name)

structure MapperNames (model : Model) (mapper : Mapper.Interface) : Prop where
  entity : isQualified model.qualifiedName → IsFree mapper.imports model.package model.name
  other : ∀ name, (name = model.name → ¬isQualified model.qualifiedName) →
    (IsFree mapper.imports model.package name ↔
      StaysFree model.package (Mapper.standingImports mapper.columns) model.keyTypes name)

theorem TableSupport.supportNames (settings : Settings) (mapping : TypeMapping) {model : Model}
    (word : isWord model.name.toList)
    (unfixed : ∀ imported ∈ fixedImports (model.columns mapping),
      simpleName imported ≠ model.name) :
    SupportNames model (ofModel settings mapping model) := by
  have pointless : '.' ∉ model.name.toList := not_mem_of_isWord word (by decide) (by decide)
  have unit := unitImports settings mapping word unfixed
  exact {
    entity := fun qualified =>
      unit.isFree_of_guarded pointless unfixed (List.mem_singleton_self _) qualified
    unpackaged := by
      intro default
      have unqualified : isQualified model.name = false := not_isQualified_of_not_mem pointless
      have simple : simpleName model.name = model.name := simpleName_of_not_isQualified unqualified
      have held : model.name ∈ [model.qualifiedName] := by
        simp [Model.qualifiedName, qualify, default]
      have free := unit.isFree_iff_of_guarded held (by rwa [simple])
      rw [simple] at free
      rw [free, default, importInto_default_iff unqualified]
      rfl
    other := fun name unguarded =>
      unit.isFree_iff_of_only pointless (by simp [Model.qualifiedName])
        fun itself _ => unguarded itself }

theorem Mapper.mapperNames (settings : Settings) (mapping : TypeMapping) (width : Nat)
    (supportName : String) {model : Model} (word : isWord model.name.toList)
    (unfixed : ∀ imported ∈ standingImports (model.columns mapping),
      simpleName imported ≠ model.name) :
    MapperNames model (Interface.of settings mapping width supportName model) := by
  have pointless : '.' ∉ model.name.toList := not_mem_of_isWord word (by decide) (by decide)
  obtain ⟨_, unit, _⟩ := unitImports settings mapping width supportName word unfixed
  exact {
    entity := by
      intro qualified
      have packaged : model.package ≠ "" := by
        intro default
        rw [Model.qualifiedName, qualify, if_pos default, not_isQualified_of_not_mem pointless]
          at qualified
        cases qualified
      have held : model.qualifiedName ∈ guardedNames model := by simp [guardedNames, packaged]
      exact unit.isFree_of_guarded pointless unfixed held qualified
    other := fun name unguarded =>
      unit.isFree_iff_of_only pointless (fun guard held => (mem_guardedNames held).2)
        fun itself held => ⟨(mem_guardedNames held).1, unguarded itself⟩ }

/-- Each unit keeps the name of an entity in a package free. Whether another name is free, or that
of an entity without a package, depends on who claims it. -/
theorem simpleNames_free (generator : Generator) (width : Nat) {model : Model}
    (named : ∀ field ∈ model.fields, field.name ≠ "") (word : isWord model.name.toList) :
    ((∀ imported ∈ TableSupport.fixedImports (model.columns generator.mapping),
        simpleName imported ≠ model.name) → SupportNames model (generator.support model)) ∧
      ∃ mapper, generator.interface width model = .ok mapper ∧
        ((∀ imported ∈ Mapper.standingImports (model.columns generator.mapping),
          simpleName imported ≠ model.name) → MapperNames model mapper) :=
  ⟨TableSupport.supportNames _ _ word, _, Mapper.Interface.ofModel_eq _ _ width _ named,
    Mapper.mapperNames _ _ width _ word⟩

def unpackagedModel : Model where
  package := ""
  name := "Date"
  fields := [⟨"id", "java.util.Date"⟩]
  table := none
  named := by decide
  distinct := by decide

theorem unpackagedModel_named : ∀ field ∈ unpackagedModel.fields, field.name ≠ "" := by
  decide

theorem unpackagedModel_word : isWord unpackagedModel.name.toList := by
  decide +kernel

theorem unpackagedModel_unfixed :
    ∀ imported ∈ Generator.standard.fixedImports unpackagedModel,
      simpleName imported ≠ unpackagedModel.name :=
  Generator.standard.unfixed_of_not_taken unpackagedModel (by decide +kernel)

theorem simpleNames_free_unpackaged :
    (∀ field ∈ unpackagedModel.fields, field.name ≠ "") ∧ isWord unpackagedModel.name.toList ∧
      SupportNames unpackagedModel (Generator.standard.support unpackagedModel) ∧
      ∃ mapper, Generator.standard.interface 4 unpackagedModel = .ok mapper ∧
        MapperNames unpackagedModel mapper := by
  obtain ⟨support, mapper, formed, names⟩ :=
    simpleNames_free .standard 4 unpackagedModel_named unpackagedModel_word
  refine ⟨unpackagedModel_named, unpackagedModel_word, support ?_, mapper, formed, names ?_⟩
  · exact fun imported member => unpackagedModel_unfixed imported (List.mem_append_left _ member)
  · exact fun imported member => unpackagedModel_unfixed imported (List.mem_append_right _ member)

/-- The mapper imports another type by the name of its entity. -/
theorem simpleNames_taken :
    (∀ field ∈ unpackagedModel.fields, field.name ≠ "") ∧ isWord unpackagedModel.name.toList ∧
      (∀ imported ∈ Generator.standard.fixedImports unpackagedModel,
        simpleName imported ≠ unpackagedModel.name) ∧
      ∃ mapper, Generator.standard.interface 4 unpackagedModel = .ok mapper ∧
        ¬IsFree mapper.imports unpackagedModel.package unpackagedModel.name := by
  have names := Mapper.mapperNames Generator.standard.settings Generator.standard.mapping 4
    (Generator.standard.support unpackagedModel).name unpackagedModel_word
    fun imported member => unpackagedModel_unfixed imported (List.mem_append_right _ member)
  refine ⟨unpackagedModel_named, unpackagedModel_word, unpackagedModel_unfixed, _,
    Mapper.Interface.ofModel_eq _ _ 4 _ unpackagedModel_named, ?_⟩
  rw [names.other unpackagedModel.name fun _ => by decide +kernel]
  rintro ⟨_, unneeded⟩
  have unfixed := fun imported member =>
    unpackagedModel_unfixed imported (List.mem_append_right _ member)
  have claimed : claimant? unpackagedModel.keyTypes "Date" = some "java.util.Date" := by
    decide +kernel
  have needed : importInto "" "java.util.Date" ≠ [] := by decide +kernel
  exact needed (unneeded unfixed "java.util.Date" claimed)

end SqlScaffold
