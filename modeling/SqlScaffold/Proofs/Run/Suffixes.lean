import Mathlib.Data.List.Pairwise
import SqlScaffold.Proofs.Emit.Placement
import SqlScaffold.Proofs.Run.Artifacts

/-!
Suffixes of unit names. Both units of a model are named after it, each with a suffix of its own, so
units of different models can have one name. Whether any do is told by the suffixes alone: they do
for some models exactly if one suffix ends with the other, which no advice on settings mentions.
-/

namespace SqlScaffold

open Text Source

def Model.unitNames (settings : Settings) (model : Model) : List String :=
  [qualify model.package (model.name ++ settings.supportSuffix),
    qualify model.package (model.name ++ settings.mapperSuffix)]

def Clash (settings : Settings) (first second : Model) : Prop :=
  first.package = second.package ∧
    first.name ++ settings.supportSuffix = second.name ++ settings.mapperSuffix

structure AreApart (models : List Model) : Prop where
  distinct : (models.map Model.qualifiedName).Nodup
  pointless : ∀ model ∈ models, '.' ∉ model.name.toList
  fields : ∀ model ∈ models, ∀ field ∈ model.fields, field.name ≠ ""

structure HasIdentifiers (model : Model) : Prop where
  name : isIdentifier model.name
  package : ∀ part ∈ Emit.packageParts model.package, isIdentifier part

theorem AreApart.eq_of_name {models : List Model} (apart : AreApart models) {first second : Model}
    (inside : first ∈ models) (also : second ∈ models) (package : first.package = second.package)
    (name : first.name = second.name) : first = second := by
  have same : first.qualifiedName = second.qualifiedName := by
    rw [Model.qualifiedName, Model.qualifiedName, package, name]
  exact List.inj_on_of_nodup_map apart.distinct inside also same

section Names

variable {settings : Settings} {models : List Model}

theorem pointless_append {name suffix : String} (plain : '.' ∉ name.toList)
    (identifier : isIdentifier suffix) : '.' ∉ (name ++ suffix).toList := by
  have also := Emit.plain_of_isIdentifier identifier '.' (by decide)
  simp [String.toList_append, plain, also]

theorem Clash.qualify_eq {first second : Model} (clash : Clash settings first second) :
    qualify first.package (first.name ++ settings.supportSuffix) =
      qualify second.package (second.name ++ settings.mapperSuffix) := by
  obtain ⟨package, name⟩ := clash
  rw [package, name]

section Apart

variable (apart : AreApart models) (support : isIdentifier settings.supportSuffix)
  (mapper : isIdentifier settings.mapperSuffix)

include apart in
theorem AreApart.eq_of_qualify_eq {first second : Model} (inside : first ∈ models)
    (also : second ∈ models) {suffix : String} (identifier : isIdentifier suffix)
    (same : qualify first.package (first.name ++ suffix) =
      qualify second.package (second.name ++ suffix)) : first = second := by
  obtain ⟨package, name⟩ := qualify_inj
    (pointless_append (apart.pointless first inside) identifier)
    (pointless_append (apart.pointless second also) identifier) same
  exact apart.eq_of_name inside also package ((String.append_left_inj _).mp name)

include apart support mapper in
theorem AreApart.clash_of_qualify_eq {first second : Model} (inside : first ∈ models)
    (also : second ∈ models)
    (same : qualify first.package (first.name ++ settings.supportSuffix) =
      qualify second.package (second.name ++ settings.mapperSuffix)) :
    Clash settings first second :=
  qualify_inj (pointless_append (apart.pointless first inside) support)
    (pointless_append (apart.pointless second also) mapper) same

include apart support mapper in
theorem AreApart.disjoint_unitNames
    (free : ∀ first ∈ models, ∀ second ∈ models, ¬Clash settings first second)
    {first second : Model} (inside : first ∈ models) (also : second ∈ models)
    (different : first ≠ second) :
    List.Disjoint (first.unitNames settings) (second.unitNames settings) := by
  intro name here there
  -- A name that both models use has one of four origins; two of them are clashes.
  simp only [Model.unitNames, List.mem_cons, List.not_mem_nil, or_false] at here there
  rcases here with rfl | rfl
  · rcases there with same | same
    · exact different (apart.eq_of_qualify_eq inside also support same)
    · exact free first inside second also (apart.clash_of_qualify_eq support mapper inside also same)
  · rcases there with same | same
    · exact free second also first inside
        (apart.clash_of_qualify_eq support mapper also inside same.symm)
    · exact different (apart.eq_of_qualify_eq inside also mapper same)

include apart support mapper in
/-- The names of all units are different exactly if no support clashes with a mapper. -/
theorem AreApart.nodup_unitNames_iff :
    (models.flatMap (Model.unitNames settings)).Nodup ↔
      ∀ first ∈ models, ∀ second ∈ models, ¬Clash settings first second := by
  rw [List.nodup_flatMap]
  constructor
  · rintro ⟨each, between⟩ first inside second also clash
    by_cases same : first = second
    · subst same
      have two := each first inside
      simp [Model.unitNames, clash.qualify_eq] at two
    · have symmetric : Std.Symm (Function.onFun List.Disjoint (Model.unitNames settings)) :=
        ⟨fun _ _ disjoint _ here there => disjoint there here⟩
      have disjoint := between.forall inside also same
      exact disjoint List.mem_cons_self (by simp [Model.unitNames, clash.qualify_eq])
  · intro free
    constructor
    · intro model inside
      have different : qualify model.package (model.name ++ settings.supportSuffix) ≠
          qualify model.package (model.name ++ settings.mapperSuffix) := fun same =>
        free model inside model inside (apart.clash_of_qualify_eq support mapper inside inside same)
      simpa [Model.unitNames] using different
    · have pairwise : models.Pairwise (· ≠ ·) := List.Nodup.of_map _ apart.distinct
      exact pairwise.imp_of_mem fun inside also different =>
        apart.disjoint_unitNames support mapper free inside also different

end Apart

def EndsWith (text suffix : String) : Prop := suffix.toList <:+ text.toList

instance (text suffix : String) : Decidable (EndsWith text suffix) :=
  inferInstanceAs (Decidable (_ <:+ _))

theorem endsWith_of_clash {first second : Model} (clash : Clash settings first second) :
    EndsWith settings.mapperSuffix settings.supportSuffix ∨
      EndsWith settings.supportSuffix settings.mapperSuffix := by
  have name := congrArg String.toList clash.2
  rw [String.toList_append, String.toList_append] at name
  have support := List.suffix_append first.name.toList settings.supportSuffix.toList
  have mapper := List.suffix_append second.name.toList settings.mapperSuffix.toList
  rw [name] at support
  exact List.suffix_or_suffix_of_suffix support mapper

/-- What stands before the end of an identifier makes a letter longer, and the two names meet when
the two ends are put behind them. -/
theorem exists_names_of_endsWith {text suffix : String} (identifier : isIdentifier text)
    (ends : EndsWith text suffix) :
    ∃ longer, isIdentifier longer ∧ longer ++ suffix = "A" ++ text := by
  obtain ⟨before, split⟩ := ends
  refine ⟨"A" ++ String.ofList before, ?_, ?_⟩
  · have letter : isIdentifierStart 'A' = true := by decide +kernel
    have chars : ("A" ++ String.ofList before).toList = 'A' :: before := by
      simp [String.toList_append]
    simp only [isIdentifier, chars, letter, Bool.true_and, List.all_eq_true]
    intro c inside
    exact isIdentifierPart_of_mem identifier c (split ▸ List.mem_append_left _ inside)
  · rw [← String.toList_inj]
    simp [String.toList_append, ← split]

theorem hasIdentifiers_fieldless {name : String} (identifier : isIdentifier name) :
    HasIdentifiers (Generator.fieldless "" name (ne_empty_of_isIdentifier identifier)) :=
  ⟨identifier, by simp [Generator.fieldless, Emit.packageParts]⟩

theorem exists_apart {first second : String} (identifier : isIdentifier first)
    (also : isIdentifier second) :
    ∃ models, AreApart models ∧ (∀ model ∈ models, HasIdentifiers model) ∧
      Generator.fieldless "" first (ne_empty_of_isIdentifier identifier) ∈ models ∧
      Generator.fieldless "" second (ne_empty_of_isIdentifier also) ∈ models := by
  have plain : ∀ name, isIdentifier name → '.' ∉ name.toList := fun name identifier =>
    Emit.plain_of_isIdentifier identifier '.' (by decide)
  by_cases same : first = second
  · subst same
    refine ⟨[Generator.fieldless "" first (ne_empty_of_isIdentifier identifier)],
      ⟨by simp, ?_, ?_⟩, ?_, by simp, by simp⟩
    · simpa [Generator.fieldless] using plain first identifier
    · simp [Generator.fieldless]
    · simpa using hasIdentifiers_fieldless identifier
  · refine ⟨[Generator.fieldless "" first (ne_empty_of_isIdentifier identifier),
      Generator.fieldless "" second (ne_empty_of_isIdentifier also)], ⟨?_, ?_, ?_⟩, ?_,
      by simp, by simp⟩
    · simpa [Generator.fieldless, Model.qualifiedName, qualify] using same
    · simpa [Generator.fieldless] using ⟨plain first identifier, plain second also⟩
    · simp [Generator.fieldless]
    · simpa using ⟨hasIdentifiers_fieldless identifier, hasIdentifiers_fieldless also⟩

/-- No models with identifiers for names clash exactly if neither suffix ends with the other. -/
theorem forall_free_iff (support : isIdentifier settings.supportSuffix)
    (mapper : isIdentifier settings.mapperSuffix) :
    (∀ models, AreApart models → (∀ model ∈ models, HasIdentifiers model) →
        ∀ first ∈ models, ∀ second ∈ models, ¬Clash settings first second) ↔
      ¬EndsWith settings.mapperSuffix settings.supportSuffix ∧
        ¬EndsWith settings.supportSuffix settings.mapperSuffix := by
  constructor
  · intro free
    have letter : isIdentifier "A" := by decide +kernel
    have unmet : ∀ first second (identifier : isIdentifier first) (also : isIdentifier second),
        first ++ settings.supportSuffix ≠ second ++ settings.mapperSuffix := by
      intro first second identifier also same
      obtain ⟨models, apart, identifiers, inside, further⟩ := exists_apart identifier also
      exact free models apart identifiers _ inside _ further ⟨rfl, same⟩
    constructor
    · intro ends
      obtain ⟨longer, identifier, meet⟩ := exists_names_of_endsWith mapper ends
      exact unmet longer "A" identifier letter meet
    · intro ends
      obtain ⟨longer, identifier, meet⟩ := exists_names_of_endsWith support ends
      exact unmet "A" longer letter identifier meet.symm
  · rintro ⟨first, second⟩ models _ _ model _ other _ clash
    rcases endsWith_of_clash clash with ends | ends
    · exact first ends
    · exact second ends

end Names

namespace Run

open Emit Scan

variable {generator : Generator} {models : List Model}

theorem unitsOf_model {model : Model} {units : List SourceUnit}
    (made : generator.units model = .ok units) : unitsOf generator (.model model) = units :=
  unitsOf_scanned rfl made

theorem names_generatedUnits (shipped : generator.library = .shipped)
    (indentable : generator.settings.Indentable)
    (fields : ∀ model ∈ models, ∀ field ∈ model.fields, field.name ≠ "") :
    (generatedUnits generator (models.map .model)).map SourceUnit.qualifiedName =
      models.flatMap (Model.unitNames generator.settings) := by
  have each : ∀ model ∈ models, (unitsOf generator (.model model)).map SourceUnit.qualifiedName =
      model.unitNames generator.settings := by
    intro model inside
    have formable := Model.IsFormable.of_named (fields model inside)
    obtain ⟨units, made⟩ := (Generator.units_shipped shipped formable).1 indentable
    obtain ⟨support, mapper, rfl⟩ := Generator.units_eq_ok made
    rw [unitsOf_model made]
    rfl
  rw [generatedUnits, List.map_flatMap, List.flatMap_map]
  exact List.flatMap_congr each

theorem generatedUnits_of_not_indentable (shipped : generator.library = .shipped)
    (wide : ¬generator.settings.Indentable)
    (fields : ∀ model ∈ models, ∀ field ∈ model.fields, field.name ≠ "") :
    generatedUnits generator (models.map .model) = [] := by
  simp only [generatedUnits, List.flatMap_eq_nil_iff, List.forall_mem_map]
  intro model inside
  have formable := Model.IsFormable.of_named (fields model inside)
  obtain ⟨_, unwritten, failing⟩ := Generator.units_shipped shipped formable
  have failed : ∃ failure, generator.units model = .error failure := by
    cases counted : generator.settings.indentWidth with
    | error error => exact ⟨_, unwritten error counted⟩
    | ok width =>
      obtain ⟨error, failed⟩ := failing width counted wide
      exact ⟨_, failed⟩
  obtain ⟨failure, failed⟩ := failed
  have declared : modelOf? generator (.model model) = some model := rfl
  simp [unitsOf, declared, failed, Except.toOption]

structure StoresAll (settings : Settings) (models : List Model) (outcome : Progress Artifacts) :
    Prop where
  returned : outcome.failure = none
  unrefused : outcome.report.ofKind "emission" = []
  stored : outcome.report.units.map SourceUnit.qualifiedName =
    models.flatMap (Model.unitNames settings)
  distinct : (models.flatMap (Model.unitNames settings)).Nodup
  artifacts : outcome.state = outcome.report.units.map entryOf

section Storing

variable (shipped : generator.library = .shipped) (apart : AreApart models)

include shipped apart in
theorem indentable_of_storesAll
    (stores : StoresAll generator.settings models
      (run generator toMemory (models.map .model) []).value) :
    models = [] ∨ generator.settings.Indentable := by
  by_cases indentable : generator.settings.Indentable
  · exact Or.inr indentable
  · obtain ⟨deliveries, summary⟩ := run_summary stores.returned
    have nothing := generatedUnits_of_not_indentable shipped indentable apart.fields
    have undelivered : deliveries = [] := by simpa [nothing] using summary.generated
    have names := stores.stored
    rw [summary.units, undelivered] at names
    refine Or.inl (List.eq_nil_iff_forall_not_mem.mpr fun model inside => ?_)
    have listed := List.flatMap_eq_nil_iff.mp names.symm model inside
    simp [Model.unitNames] at listed

variable (indentable : generator.settings.Indentable)
  (support : isIdentifier generator.settings.supportSuffix)
  (mapper : isIdentifier generator.settings.mapperSuffix)

include shipped apart indentable in
theorem models_return :
    (run generator toMemory (models.map .model) []).value.failure = none := by
  rw [run_returns_iff]
  refine ⟨?_, fun call _ => toMemory_answered call.1 call.2⟩
  simp only [List.forall_mem_map]
  intro model inside
  have formable := Model.IsFormable.of_named (apart.fields model inside)
  obtain ⟨units, made⟩ := (Generator.units_shipped shipped formable).1 indentable
  exact .generated rfl made

include shipped apart indentable support mapper in
/-- A unit is refused exactly if two models clash. -/
theorem unrefused_iff_free :
    (run generator toMemory (models.map .model) []).value.report.ofKind "emission" = [] ↔
      ∀ first ∈ models, ∀ second ∈ models, ¬Clash generator.settings first second := by
  rw [unrefused_iff_distinct (models_return shipped apart indentable),
    names_generatedUnits shipped indentable apart.fields,
    apart.nodup_unitNames_iff support mapper]

include shipped apart indentable support mapper in
theorem storesAll_of_free
    (free : ∀ first ∈ models, ∀ second ∈ models, ¬Clash generator.settings first second) :
    StoresAll generator.settings models (run generator toMemory (models.map .model) []).value := by
  have returned := models_return shipped apart indentable
  have unrefused := (unrefused_iff_free shipped apart indentable support mapper).mpr free
  exact {
    returned := returned
    unrefused := unrefused
    stored := by
      rw [units_of_unrefused returned unrefused,
        names_generatedUnits shipped indentable apart.fields]
    distinct := (apart.nodup_unitNames_iff support mapper).mpr free
    artifacts := artifacts_eq_units returned }

omit indentable in
include shipped apart support mapper in
theorem storesAll_iff :
    StoresAll generator.settings models (run generator toMemory (models.map .model) []).value ↔
      (models = [] ∨ generator.settings.Indentable) ∧
        ∀ first ∈ models, ∀ second ∈ models, ¬Clash generator.settings first second := by
  constructor
  · intro stores
    exact ⟨indentable_of_storesAll shipped apart stores,
      (apart.nodup_unitNames_iff support mapper).mp stores.distinct⟩
  · rintro ⟨rfl | indentable, free⟩
    · exact ⟨rfl, rfl, rfl, List.nodup_nil, rfl⟩
    · exact storesAll_of_free shipped apart indentable support mapper free

end Storing

/-- With settings that nothing is advised on, a run stores both units of every model exactly if the
indentation can be written and no two units share their name. It does so for all models with
identifiers for names exactly if, moreover, neither suffix ends with the other. -/
theorem run_storesAll_iff {settings : Settings} {generator : Generator}
    (made : Generator.make settings .shipped = .ok generator)
    (unadvised : settings.draft.advice = []) :
    (∀ models, AreApart models →
      (StoresAll settings models (run generator toMemory (models.map .model) []).value ↔
        (models = [] ∨ settings.Indentable) ∧
          ∀ first ∈ models, ∀ second ∈ models, ¬Clash settings first second)) ∧
      ((∀ models, AreApart models → (∀ model ∈ models, HasIdentifiers model) →
        StoresAll settings models (run generator toMemory (models.map .model) []).value) ↔
        settings.Indentable ∧ ¬EndsWith settings.mapperSuffix settings.supportSuffix ∧
          ¬EndsWith settings.supportSuffix settings.mapperSuffix) := by
  obtain ⟨support, mapper⟩ := suffixes_of_unadvised unadvised
  obtain ⟨rfl, shipped⟩ := Generator.make_eq_ok made
  have each (models : List Model) (apart : AreApart models) :=
    storesAll_iff shipped apart support mapper
  have free := forall_free_iff support mapper
  refine ⟨each, ?_, ?_⟩
  · intro all
    refine ⟨?_, free.mp fun models apart identifiers =>
      ((each models apart).mp (all models apart identifiers)).2⟩
    have letter : isIdentifier "A" := by decide +kernel
    obtain ⟨models, apart, identifiers, inside, _⟩ := exists_apart letter letter
    rcases ((each models apart).mp (all models apart identifiers)).1 with rfl | indentable
    · simp at inside
    · exact indentable
  · rintro ⟨indentable, unmet⟩ models apart identifiers
    exact (each models apart).mpr ⟨Or.inr indentable, free.mpr unmet models apart identifiers⟩

/-- The default suffixes never meet. -/
theorem run_storesAll_standard :
    Generator.make {} .shipped = .ok .standard ∧ ({} : Settings).draft.advice = [] ∧
      ∀ models, AreApart models → (∀ model ∈ models, HasIdentifiers model) →
        StoresAll {} models (run .standard toMemory (models.map .model) []).value := by
  have made : Generator.make {} .shipped = .ok .standard := rfl
  have unadvised : ({} : Settings).draft.advice = [] := by decide +kernel
  exact ⟨made, unadvised, (run_storesAll_iff made unadvised).2.mpr
    ⟨by decide, by decide +kernel, by decide +kernel⟩⟩

def meetingSuffixes : Settings := { supportSuffix := "Support", mapperSuffix := "MapperSupport" }

def meetingModels : List Model :=
  [Generator.fieldless "" "User" (by decide), Generator.fieldless "" "UserMapper" (by decide)]

/-- The mapper of `User` and the table support of `UserMapper` share their name, so that one of them
is refused. -/
theorem run_storesAll_meeting :
    Generator.make meetingSuffixes .shipped = .ok ⟨meetingSuffixes, ⟨[]⟩, .shipped⟩ ∧
      meetingSuffixes.draft.advice = [] ∧ AreApart meetingModels ∧
      (∀ model ∈ meetingModels, HasIdentifiers model) ∧
      (run ⟨meetingSuffixes, ⟨[]⟩, .shipped⟩ toMemory
        (meetingModels.map .model) []).value.report.ofKind "emission" ≠ [] := by
  have user : isIdentifier "User" := by decide +kernel
  have mapper : isIdentifier "UserMapper" := by decide +kernel
  have apart : AreApart meetingModels := ⟨by decide +kernel, by decide +kernel, by decide +kernel⟩
  refine ⟨rfl, by decide +kernel, apart, ?_, fun unrefused => ?_⟩
  · simpa [meetingModels] using ⟨hasIdentifiers_fieldless user, hasIdentifiers_fieldless mapper⟩
  · have shipped : (⟨meetingSuffixes, ⟨[]⟩, .shipped⟩ : Generator).library = .shipped := rfl
    have free := (unrefused_iff_free shipped apart (by decide) (by decide +kernel)
      (by decide +kernel)).mp unrefused
    refine free (Generator.fieldless "" "UserMapper" (by decide)) (by simp [meetingModels])
      (Generator.fieldless "" "User" (by decide)) (by simp [meetingModels]) ⟨rfl, ?_⟩
    decide +kernel

end Run

end SqlScaffold
