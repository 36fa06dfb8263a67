import SqlScaffold.Proofs.Units.Mapper
import SqlScaffold.Proofs.Units.Support

/-!
Units read back. The text of a unit determines what the unit says about its model: nothing that is
written can be mistaken for something else, whatever types and tables are called.
-/

namespace SqlScaffold

open Text Source Template

structure SameSupport (generator : Generator) (first second : Model) : Prop where
  package : first.package = second.package
  name : first.name = second.name
  table : first.tableName = second.tableName
  columns : (generator.support first).rows = (generator.support second).rows

structure SameMapper (first second : Model) (mapper other : Mapper.Interface) : Prop where
  package : first.package = second.package
  name : first.name = second.name
  columns : mapper.columns.map Column.stored = other.columns.map Column.stored
  key : first.hasIdentity → ∃ written, ∀ interface ∈ [mapper, other],
    (interface.overloads "findById").map Mapper.Operation.parameters =
      [[(written, Mapper.Subject.keyParameter)]]

namespace Generator

variable {generator : Generator} {width : Nat} {first second : Model}

theorem supportParagraphs_eq_of_body (shipped : generator.library = .shipped)
    (suffixes : generator.settings.HasUnbrokenSuffixes) (unbroken : first.HasUnbrokenTexts)
    (also : second.HasUnbrokenTexts) {unit other : SourceUnit}
    (rendered : generator.render width tableSupportName first (generator.support first).entries
      (generator.support first).name = .ok unit)
    (alsoRendered : generator.render width tableSupportName second
      (generator.support second).entries (generator.support second).name = .ok other)
    (same : unit.body = other.body) :
    generator.supportParagraphs width first = generator.supportParagraphs width second := by
  have filled : ∀ model, generator.supportParagraphs width model ≠ [] := fun _ =>
    List.append_ne_nil_of_right_ne_nil _ (List.cons_ne_nil _ _)
  rw [support_body unbroken shipped rendered, support_body also shipped alsoRendered] at same
  exact normalize_layOut_inj (filled first) (filled second)
    (isParagraph_of_mem_support unbroken suffixes width)
    (isParagraph_of_mem_support also suffixes width) (by decide) same

theorem mapperParagraphs_eq_of_body (shipped : generator.library = .shipped)
    (suffixes : generator.settings.HasUnbrokenSuffixes) (unbroken : first.HasUnbrokenTexts)
    (also : second.HasUnbrokenTexts) (counted : generator.settings.indentWidth = .ok width)
    {unit other : SourceUnit}
    (rendered : generator.render width mapperName first (generator.mapper width first).entries
      (generator.mapper width first).name = .ok unit)
    (alsoRendered : generator.render width mapperName second
      (generator.mapper width second).entries (generator.mapper width second).name = .ok other)
    (same : unit.body = other.body) :
    generator.mapperParagraphs width first = generator.mapperParagraphs width second := by
  have filled : ∀ model, generator.mapperParagraphs width model ≠ [] := fun _ =>
    List.append_ne_nil_of_right_ne_nil _ (List.cons_ne_nil _ _)
  rw [mapper_body unbroken suffixes shipped counted rendered,
    mapper_body also suffixes shipped counted alsoRendered] at same
  exact normalize_layOut_inj (filled first) (filled second)
    (isParagraph_of_mem_mapper unbroken suffixes width)
    (isParagraph_of_mem_mapper also suffixes width) (by decide) same

theorem sameSupport_of_paragraphs (orderly : first.IsOrderly) (also : second.IsOrderly)
    (same : generator.supportParagraphs width first = generator.supportParagraphs width second) :
    SameSupport generator first second := by
  obtain ⟨package, paragraphs⟩ := openingParagraphs_inj same
  obtain ⟨name, table, columns⟩ := TableSupport.paragraphs_inj
    (support_hasDerivedNames (orderly.pointless _)) (support_hasDerivedNames (also.pointless _))
    paragraphs
  exact ⟨package, name, table, columns⟩

theorem key_of_keyed (entity : first.name = second.name)
    (same : (Mapper.keyedOperations first (generator.subject width first)).map
        (fun operation => operation.lines (repeated width ' ')) =
      (Mapper.keyedOperations second (generator.subject width second)).map
        (fun operation => operation.lines (repeated width ' '))) (keyed : first.hasIdentity) :
    ∃ written, ∀ interface ∈ [generator.mapper width first, generator.mapper width second],
      (interface.overloads "findById").map Mapper.Operation.parameters =
        [[(written, Mapper.Subject.keyParameter)]] := by
  obtain ⟨field, identified⟩ := Option.isSome_iff_exists.mp keyed
  have found : (generator.subject width first).key? =
      some (Column.ofField generator.mapping field) := by
    simp only [subject, Mapper.Subject.key?_ofModel, identified, Option.map_some]
  have parameters (model : Model) {key : Column}
      (known : (generator.subject width model).key? = some key) :
      ((generator.mapper width model).overloads "findById").map Mapper.Operation.parameters =
        [[(Mapper.keyTypeOf model (generator.subject width model) key,
          Mapper.Subject.keyParameter)]] :=
    Mapper.keyParameters_of _ _ width _ known "findById" List.mem_cons_self
  simp only [Mapper.keyedOperations, found] at same
  cases other : (generator.subject width second).key? with
  | none => simp [other, Mapper.Subject.keyOperationsOf] at same
  | some key =>
    simp only [other, Mapper.Subject.keyOperationsOf, List.map_cons, List.cons.injEq] at same
    have type := Mapper.Subject.findById_inj entity same.1
    refine ⟨_, List.forall_mem_cons.mpr ⟨parameters first found, List.forall_mem_singleton.mpr ?_⟩⟩
    rw [parameters second other, type]

theorem operations_mapper (generator : Generator) (width : Nat) (model : Model) :
    (generator.mapper width model).operations =
      (generator.subject width model).commonOperations ++
        Mapper.keyedOperations model (generator.subject width model) := rfl

theorem sameMapper_of_paragraphs (suffixes : generator.settings.HasUnbrokenSuffixes)
    (unbroken : first.HasUnbrokenTexts) (also : second.HasUnbrokenTexts)
    (same : generator.mapperParagraphs width first = generator.mapperParagraphs width second) :
    SameMapper first second (generator.mapper width first) (generator.mapper width second) := by
  obtain ⟨package, paragraphs⟩ := openingParagraphs_inj same
  have methods := (List.cons.inj paragraphs).2
  rw [operations_mapper, operations_mapper, List.map_append, List.map_append] at methods
  have sizes : (generator.subject width first).commonOperations.length =
      (generator.subject width second).commonOperations.length := rfl
  obtain ⟨common, keyed⟩ := List.append_inj methods (by rw [List.length_map, List.length_map, sizes])
  have support : first.name = second.name →
      (generator.subject width first).support = (generator.subject width second).support :=
    fun name => congrArg (· ++ generator.settings.supportSuffix) name
  obtain ⟨name, columns⟩ := Mapper.Subject.stored_of_common
    (subject_hasUnbrokenTexts unbroken suffixes) (subject_hasUnbrokenTexts also suffixes)
    subject_hasDerivedNames subject_hasDerivedNames support rfl common
  exact ⟨package, name, columns, key_of_keyed name keyed⟩

theorem sameSupport_of_body (shipped : generator.library = .shipped)
    (suffixes : generator.settings.HasUnbrokenSuffixes) (orderly : first.IsOrderly)
    (also : second.IsOrderly) {support mapper otherSupport otherMapper : SourceUnit}
    (made : generator.units first = .ok [support, mapper])
    (others : generator.units second = .ok [otherSupport, otherMapper])
    (same : support.body = otherSupport.body) : SameSupport generator first second := by
  obtain ⟨width, _, _, _, counted, _, rendered, _, pair⟩ := rendered_of_units made
  obtain ⟨alsoWidth, _, _, _, alsoCounted, _, otherRendered, _, otherPair⟩ :=
    rendered_of_units others
  cases pair
  cases otherPair
  obtain rfl : alsoWidth = width := Except.ok.inj (alsoCounted.symm.trans counted)
  exact sameSupport_of_paragraphs orderly also (supportParagraphs_eq_of_body shipped suffixes
    orderly.unbroken also.unbroken rendered otherRendered same)

/-- With the shipped templates, the bodies of units determine what is written in them. -/
theorem bodies_determine (shipped : generator.library = .shipped)
    (suffixes : generator.settings.HasUnbrokenSuffixes) (orderly : first.IsOrderly)
    (also : second.IsOrderly) {support mapper otherSupport otherMapper : SourceUnit}
    (made : generator.units first = .ok [support, mapper])
    (others : generator.units second = .ok [otherSupport, otherMapper]) :
    (support.body = otherSupport.body → SameSupport generator first second) ∧
      (mapper.body = otherMapper.body → ∃ width interface otherInterface,
        generator.settings.indentWidth = .ok width ∧
          generator.interface width first = .ok interface ∧
          generator.interface width second = .ok otherInterface ∧
          SameMapper first second interface otherInterface) := by
  refine ⟨sameSupport_of_body shipped suffixes orderly also made others, fun same => ?_⟩
  obtain ⟨width, interface, _, _, counted, formed, _, rendered, pair⟩ := rendered_of_units made
  obtain ⟨alsoWidth, otherInterface, _, _, alsoCounted, alsoFormed, _, otherRendered, otherPair⟩ :=
    rendered_of_units others
  cases pair
  cases otherPair
  obtain rfl : alsoWidth = width := Except.ok.inj (alsoCounted.symm.trans counted)
  have own : generator.interface alsoWidth first = .ok (generator.mapper alsoWidth first) :=
    Mapper.Interface.ofModel_eq _ _ alsoWidth _ orderly.named
  have foreign : generator.interface alsoWidth second = .ok (generator.mapper alsoWidth second) :=
    Mapper.Interface.ofModel_eq _ _ alsoWidth _ also.named
  obtain rfl := Except.ok.inj (formed.symm.trans own)
  obtain rfl := Except.ok.inj (alsoFormed.symm.trans foreign)
  have paragraphs := mapperParagraphs_eq_of_body shipped suffixes orderly.unbroken also.unbroken
    counted rendered otherRendered same
  exact ⟨alsoWidth, _, _, counted, own, foreign,
    sameMapper_of_paragraphs suffixes orderly.unbroken also.unbroken paragraphs⟩

end Generator

def labelledItem : Model where
  package := "app.stock"
  name := "Item"
  fields := [⟨"id", "long"⟩, ⟨"label", "java.lang.String"⟩]
  table := some "stock\"items"
  named := by decide
  distinct := by decide

def countedItem : Model where
  package := "app.stock"
  name := "Item"
  fields := [⟨"id", "long"⟩, ⟨"count", "int"⟩]
  table := none
  named := by decide
  distinct := by decide

theorem labelledItem_orderly : labelledItem.IsOrderly where
  package := by decide
  name := by decide
  field := by decide
  type := by decide
  table := by
    intro table given
    obtain rfl : "stock\"items" = table := Option.some.inj given
    decide

theorem countedItem_orderly : countedItem.IsOrderly where
  package := by decide
  name := by decide
  field := by decide
  type := by decide
  table := fun _ => nofun

theorem Generator.standard_units {model : Model} (orderly : model.IsOrderly) :
    ∃ support mapper, Generator.standard.units model = .ok [support, mapper] := by
  obtain ⟨_, _, made⟩ := standard_ok model (.of_named orderly.named)
  exact ⟨_, _, made⟩

theorem bodies_determine_items :
    Generator.standard.settings.HasUnbrokenSuffixes ∧ labelledItem.IsOrderly ∧
      countedItem.IsOrderly ∧ ∃ support mapper otherSupport otherMapper,
        Generator.standard.units labelledItem = .ok [support, mapper] ∧
          Generator.standard.units countedItem = .ok [otherSupport, otherMapper] ∧
          support.body ≠ otherSupport.body ∧ mapper.body ≠ otherMapper.body := by
  have suffixes : Generator.standard.settings.HasUnbrokenSuffixes :=
    ⟨by decide, by decide, by decide⟩
  obtain ⟨support, mapper, made⟩ := Generator.standard_units labelledItem_orderly
  obtain ⟨otherSupport, otherMapper, others⟩ := Generator.standard_units countedItem_orderly
  obtain ⟨supports, mappers⟩ := Generator.bodies_determine rfl suffixes labelledItem_orderly
    countedItem_orderly made others
  refine ⟨suffixes, labelledItem_orderly, countedItem_orderly, support, mapper, otherSupport,
    otherMapper, made, others, ?_, ?_⟩
  · intro same
    have table : "stock\"items" = "item" := (supports same).table
    exact absurd table (by decide)
  · intro same
    obtain ⟨width, interface, otherInterface, _, formed, otherFormed, agree⟩ := mappers same
    have own := formed.symm.trans (Mapper.Interface.ofModel_eq _ _ width _ labelledItem_orderly.named)
    have foreign := otherFormed.symm.trans
      (Mapper.Interface.ofModel_eq _ _ width _ countedItem_orderly.named)
    cases own
    cases foreign
    have names : ["id", "label"] = ["id", "count"] := congrArg (List.map Prod.fst) agree.columns
    exact absurd names (by decide)

end SqlScaffold
