import SqlScaffold.Generator
import SqlScaffold.Proofs.Mapper.Interface
import SqlScaffold.Proofs.Source.Layout
import SqlScaffold.Proofs.Template.Units

/-!
What a generator makes of a model: a unit with the table support and a unit with the mapper, or
nothing. With the shipped templates, only the size of the indentation decides which.
-/

namespace SqlScaffold

open Source Template

theorem Source.roomLimit_bounds : 0 < roomLimit ∧ roomLimit < countLimit := by
  decide

theorem Source.blankCount_ok_iff {number : Int} :
    (∃ count, blankCount number = .ok count) ↔ -countLimit ≤ number ∧ number < roomLimit := by
  have limits := roomLimit_bounds
  unfold blankCount
  by_cases beyond : number < -countLimit ∨ countLimit ≤ number
  · simp only [if_pos beyond, reduceCtorEq, exists_false, false_iff]
    omega
  · by_cases wide : roomLimit ≤ number
    · simp only [if_neg beyond, if_pos wide, reduceCtorEq, exists_false, false_iff]
      omega
    · simp only [if_neg beyond, if_neg wide, Except.ok.injEq, exists_eq', true_iff]
      omega

def Settings.Indentable (settings : Settings) : Prop :=
  -countLimit ≤ 2 * settings.indentSize ∧ 2 * settings.indentSize < roomLimit

instance (settings : Settings) : Decidable settings.Indentable :=
  inferInstanceAs (Decidable (_ ∧ _))

theorem Settings.indentable_iff (settings : Settings) :
    settings.Indentable ↔ (∃ width, settings.indentWidth = .ok width) ∧
      ∃ width, blankCount (settings.indentSize * 2) = .ok width := by
  unfold Settings.indentWidth Settings.Indentable
  rw [blankCount_ok_iff, blankCount_ok_iff]
  have limits := roomLimit_bounds
  omega

namespace Generator

def standard : Generator := ⟨{}, ⟨[]⟩, .shipped⟩

def support (generator : Generator) (model : Model) : TableSupport :=
  .ofModel generator.settings generator.mapping model

def interface (generator : Generator) (width : Nat) (model : Model) :
    Except Naming.NameError Mapper.Interface :=
  Mapper.Interface.ofModel generator.settings generator.mapping width (generator.support model).name
    model

theorem make_eq_ok {settings : Settings} {library : Library} {generator : Generator}
    (made : make settings library = .ok generator) :
    generator.settings = settings ∧ generator.library = library := by
  obtain ⟨mapping, _, filled⟩ := Outcome.bind_eq_ok_iff.mp made
  cases filled
  exact ⟨rfl, rfl⟩

theorem rendered_of_units {generator : Generator} {model : Model} {units : List SourceUnit}
    (made : generator.units model = .ok units) :
    ∃ width mapper first second, generator.settings.indentWidth = .ok width ∧
      generator.interface width model = .ok mapper ∧
      generator.render width Template.tableSupportName model (generator.support model).entries
        (generator.support model).name = .ok first ∧
      generator.render width Template.mapperName model mapper.entries mapper.name = .ok second ∧
      units = [first, second] := by
  obtain ⟨width, counted, afterWidth⟩ := Outcome.bind_eq_ok_iff.mp made
  obtain ⟨mapper, formed, afterMapper⟩ := Outcome.bind_eq_ok_iff.mp afterWidth
  obtain ⟨first, firstRendered, afterFirst⟩ := Outcome.bind_eq_ok_iff.mp afterMapper
  obtain ⟨second, secondRendered, paired⟩ := Outcome.bind_eq_ok_iff.mp afterFirst
  cases paired
  exact ⟨width, mapper, first, second, Outcome.mapError_eq_ok_iff.mp counted,
    Outcome.mapError_eq_ok_iff.mp formed, firstRendered, secondRendered, rfl⟩

theorem render_eq_ok {generator : Generator} {width : Nat} {template : String} {model : Model}
    {entries : Entries} {name : String} {unit : SourceUnit}
    (rendered : generator.render width template model entries name = .ok unit) :
    ∃ body, unit = ⟨model.package, name, body⟩ := by
  obtain ⟨code, _, made⟩ := Outcome.bind_eq_ok_iff.mp rendered
  cases made
  exact ⟨_, rfl⟩

theorem name_ofModel {settings : Settings} {mapping : TypeMapping} {width : Nat}
    {supportName : String} {model : Model} {mapper : Mapper.Interface}
    (made : Mapper.Interface.ofModel settings mapping width supportName model = .ok mapper) :
    mapper.name = model.name ++ settings.mapperSuffix := by
  obtain ⟨_, _, filled⟩ := Outcome.bind_eq_ok_iff.mp made
  cases filled
  rfl

/-- The table support comes first, and then the mapper. -/
theorem units_eq_ok {generator : Generator} {model : Model} {units : List SourceUnit}
    (made : generator.units model = .ok units) :
    ∃ support mapper,
      units = [⟨model.package, model.name ++ generator.settings.supportSuffix, support⟩,
        ⟨model.package, model.name ++ generator.settings.mapperSuffix, mapper⟩] := by
  obtain ⟨width, mapper, _, _, _, formed, first, second, rfl⟩ := rendered_of_units made
  obtain ⟨support, rfl⟩ := render_eq_ok first
  obtain ⟨body, rfl⟩ := render_eq_ok second
  exact ⟨support, body, by rw [name_ofModel formed]; rfl⟩

section Shipped

variable {generator : Generator} {model : Model}

theorem ofModel_ok (settings : Settings) (mapping : TypeMapping) (width : Nat)
    (supportName : String) (formable : model.IsFormable) :
    ∃ mapper operation, Mapper.Interface.ofModel settings mapping width supportName model =
      .ok mapper ∧ operation ∈ mapper.operations ∧ operation.isDefault :=
  ⟨_, (Mapper.Subject.ofModel settings mapping width supportName model).insert,
    Mapper.Interface.ofModel_eq_of_formable settings mapping width supportName formable,
    List.mem_cons_self, rfl⟩

/-- A template of a library is written if the context fits its scope. -/
theorem render_ok {width : Nat} {template name : String} {entries : Entries} {parts : List Part}
    {scope : Scope} (found : generator.library.find template = .ok parts)
    (checked : checksAll scope parts)
    (fits : Fits (.object (entries ++ commonEntries generator.settings width model))
      (.record scope))
    (free : Entries.get? (entries ++ commonEntries generator.settings width model)
      reservedName = none) :
    ∃ unit, generator.render width template model entries name = .ok unit := by
  obtain ⟨text, written⟩ := renderAll_ok fits parts checked
  refine ⟨⟨model.package, name, normalize text⟩, ?_⟩
  simp [render, Library.render, found, free, written, bind, Except.bind]

theorem renderAll_of_render {width : Nat} {template name : String} {entries : Entries}
    {parts : List Part} {unit : SourceUnit}
    (found : generator.library.find template = .ok parts)
    (rendered : generator.render width template model entries name = .ok unit) :
    ∃ text, renderAll (entries ++ commonEntries generator.settings width model) parts =
      .ok text ∧ unit.body = normalize text := by
  obtain ⟨code, filled, made⟩ := Outcome.bind_eq_ok_iff.mp rendered
  have looked := Outcome.mapError_eq_ok_iff.mp (Outcome.mapError_eq_ok_iff.mp filled)
  rw [found] at looked
  obtain ⟨same, hit, afterFound⟩ := Outcome.bind_eq_ok_iff.mp looked
  cases hit
  cases made
  dsimp only at afterFound
  split at afterFound
  · cases afterFound
  · exact ⟨code, Outcome.mapError_eq_ok_iff.mp afterFound, rfl⟩

theorem render_error {width : Nat} {template name : String} {entries : Entries}
    {failure : GenerationFailure}
    (failed : generator.render width template model entries name = .error failure) :
    ∃ error, failure = .template error := by
  unfold render at failed
  dsimp only at failed
  cases filled : generator.library.render template
      (entries ++ commonEntries generator.settings width model) with
  | ok code => simp [filled, bind, Except.bind] at failed
  | error error =>
    simp only [filled, Outcome.mapError_error, bind, Except.bind, Except.error.injEq] at failed
    exact ⟨error, failed.symm⟩

theorem commonEntries_fit (settings : Settings) (width : Nat) :
    Fits (.object (commonEntries settings width model))
      (.record [("header", .any), ("ind", .any)]) :=
  .record_cons (.any _) (.record_cons (.any _) (.record_nil _))

theorem commonEntries_fit_count {settings : Settings} (width : Nat)
    (indentable : settings.Indentable) :
    Fits (.object (commonEntries settings width model))
      (.record [("header", .any), ("ind", .any), ("indent_size", .count)]) := by
  obtain ⟨⟨once, single⟩, twice, double⟩ := settings.indentable_iff.mp indentable
  exact .record_cons (.any _) (.record_cons (.any _)
    (.record_cons (.count single double) (.record_nil _)))

theorem texts_fit (texts : List String) : Fits (.list (texts.map .text)) (.list .text) := by
  refine .list fun member inside => ?_
  obtain ⟨text, _, rfl⟩ := List.mem_map.mp inside
  exact .text text

theorem items_fit (items : List Value) : Fits (.list items) (.list .any) :=
  .list fun member _ => .any member

theorem supportEntries_fit (support : TableSupport) {common : Entries}
    (fits : Fits (.object common) (.record [("header", .any), ("ind", .any)])) :
    Fits (.object (support.entries ++ common)) (.record tableSupportScope) := by
  have columns : Fits (.list (support.columns.map fun column =>
      .object (support.columnEntries column))) (.list columnShape) := by
    refine .list fun member inside => ?_
    obtain ⟨column, _, rfl⟩ := List.mem_map.mp inside
    exact .record_cons (.any _) (.record_cons (.any _) (.record_cons (.any _)
      (.record_cons (.any _) (.record_nil _))))
  exact .record_cons (.any _) (.record_cons (.any _) (.record_cons (.any _) (.record_cons (.any _)
    (.record_cons (.any _) (.record_cons (items_fit _) (.record_cons columns fits))))))

theorem mapperEntries_fit (mapper : Mapper.Interface) {common : Entries}
    (fits : Fits (.object common)
      (.record [("header", .any), ("ind", .any), ("indent_size", .count)])) :
    Fits (.object (mapper.entries ++ common)) (.record mapperScope) := by
  have operations : Fits (.list (mapper.operations.map fun operation =>
      .object (Mapper.Interface.operationEntries operation))) (.list operationShape) := by
    refine .list fun member inside => ?_
    obtain ⟨operation, _, rfl⟩ := List.mem_map.mp inside
    exact .record_cons (.any _) (.record_cons (.any _) (.record_cons (.any _)
      (.record_cons (texts_fit _) (.record_cons (texts_fit _) (.record_nil _)))))
  exact .record_cons (.any _) (.record_cons (.any _) (.record_cons (items_fit _)
    (.record_cons (items_fit _) (.record_cons (items_fit _) (.record_cons operations fits)))))

variable (shipped : generator.library = .shipped) (formable : model.IsFormable)

include shipped in
theorem support_ok (width : Nat) (support : TableSupport) :
    ∃ unit, generator.render width tableSupportName model support.entries support.name =
      .ok unit := by
  have found : generator.library.find tableSupportName = .ok tableSupport :=
    shipped ▸ find_tableSupport
  exact render_ok found tableSupport_checks
    (supportEntries_fit support (commonEntries_fit generator.settings width)) rfl

include shipped in
theorem mapper_ok (indentable : generator.settings.Indentable) (width : Nat)
    (mapper : Mapper.Interface) :
    ∃ unit, generator.render width mapperName model mapper.entries mapper.name = .ok unit := by
  have found : generator.library.find mapperName = .ok Template.mapper := shipped ▸ find_mapper
  exact render_ok found mapper_checks
    (mapperEntries_fit mapper (commonEntries_fit_count width indentable)) rfl

theorem blankCount_of_render {width : Nat} {mapper : Mapper.Interface}
    {operation : Mapper.Operation} {unit : SourceUnit} (shipped : generator.library = .shipped)
    (inside : operation ∈ mapper.operations) (isDefault : operation.isDefault)
    (rendered : generator.render width mapperName model mapper.entries mapper.name = .ok unit) :
    ∃ count, blankCount (generator.settings.indentSize * 2) = .ok count := by
  have found : generator.library.find mapperName = .ok Template.mapper := shipped ▸ find_mapper
  obtain ⟨text, written, _⟩ := renderAll_of_render found rendered
  have listed : .object (Mapper.Interface.operationEntries operation) ∈ mapper.operations.map
      fun operation => Value.object (Mapper.Interface.operationEntries operation) :=
    List.mem_map.mpr ⟨operation, inside, rfl⟩
  refine blankCount_of_mapper written rfl rfl listed ?_
  rw [← isDefault]
  rfl

include shipped formable in
/-- Where the indentation counts, only the interface can fail. -/
theorem units_of_width {width : Nat} (counted : generator.settings.indentWidth = .ok width) :
    ∃ (support : SourceUnit) (mapper : Mapper.Interface) (operation : Mapper.Operation),
      operation ∈ mapper.operations ∧ operation.isDefault ∧ generator.units model =
        (generator.render width mapperName model mapper.entries mapper.name).map
          fun unit => [support, unit] := by
  let support := TableSupport.ofModel generator.settings generator.mapping model
  obtain ⟨mapper, operation, made, inside, isDefault⟩ :=
    ofModel_ok generator.settings generator.mapping width support.name formable
  have supported : ∃ unit, generator.render width tableSupportName model support.entries
      support.name = .ok unit := support_ok shipped width support
  obtain ⟨unit, rendered⟩ := supported
  refine ⟨unit, mapper, operation, inside, isDefault, ?_⟩
  unfold units
  simp only [counted, made, rendered, Outcome.mapError_ok, bind, Except.bind, support]
  cases generator.render width mapperName model mapper.entries mapper.name with
  | ok second => rfl
  | error failure => rfl

include shipped formable in
/-- With the shipped templates, what comes of a model whose mapper can be formed depends on the
indentation only. -/
theorem units_shipped :
    (generator.settings.Indentable → ∃ units, generator.units model = .ok units) ∧
      (∀ error, generator.settings.indentWidth = .error error →
        generator.units model = .error (.blanks error)) ∧
      (∀ width, generator.settings.indentWidth = .ok width → ¬generator.settings.Indentable →
        ∃ error, generator.units model = .error (.template error)) := by
  refine ⟨?indentable, ?blanks, ?template⟩
  case indentable =>
    intro indentable
    obtain ⟨⟨width, counted⟩, _⟩ := generator.settings.indentable_iff.mp indentable
    obtain ⟨support, mapper, _, _, _, units⟩ := units_of_width shipped formable counted
    obtain ⟨unit, rendered⟩ := mapper_ok shipped indentable width mapper
    exact ⟨[support, unit], by rw [units, rendered]; rfl⟩
  case blanks =>
    intro error uncounted
    simp [units, uncounted, bind, Except.bind]
  case template =>
    intro width counted wide
    obtain ⟨support, mapper, _, inside, isDefault, units⟩ := units_of_width shipped formable counted
    cases rendered : generator.render width mapperName model mapper.entries mapper.name with
    | ok unit =>
      have double := blankCount_of_render shipped inside isDefault rendered
      exact absurd (generator.settings.indentable_iff.mpr ⟨⟨width, counted⟩, double⟩) wide
    | error failure =>
      obtain ⟨error, rfl⟩ := render_error rendered
      exact ⟨error, by rw [units, rendered]; rfl⟩

include shipped formable in
theorem units_ok_iff :
    (∃ support mapper, generator.units model = .ok [support, mapper]) ↔
      generator.settings.Indentable := by
  obtain ⟨written, _, template⟩ := units_shipped shipped formable
  constructor
  · rintro ⟨support, mapper, made⟩
    obtain ⟨width, _, _, _, counted, _⟩ := rendered_of_units made
    by_contra wide
    obtain ⟨error, failed⟩ := template width counted wide
    cases made.symm.trans failed
  · intro indentable
    obtain ⟨units, made⟩ := written indentable
    obtain ⟨support, mapper, rfl⟩ := units_eq_ok made
    exact ⟨_, _, made⟩

/-- Whatever the templates are, a mapper that cannot be formed is found out as soon as the
indentation counts. -/
theorem units_unformable {width : Nat} (counted : generator.settings.indentWidth = .ok width)
    (unformable : ¬model.IsFormable) : generator.units model = .error (.name .empty) := by
  simp only [units, counted, Mapper.Interface.ofModel_eq_of_unformable _ _ _ _ unformable,
    Outcome.mapError_ok, Outcome.mapError_error, bind, Except.bind]

theorem standard_ok (model : Model) (formable : model.IsFormable) :
    ∃ support mapper, standard.units model =
      .ok [⟨model.package, model.name ++ standard.settings.supportSuffix, support⟩,
        ⟨model.package, model.name ++ standard.settings.mapperSuffix, mapper⟩] := by
  have indentable : standard.settings.Indentable := by decide
  obtain ⟨units, made⟩ := (units_shipped rfl formable).1 indentable
  obtain ⟨support, mapper, rfl⟩ := units_eq_ok made
  exact ⟨support, mapper, made⟩

def fieldless (package name : String) (named : name ≠ "") : Model :=
  ⟨package, name, [], some "", named, List.nodup_nil⟩

theorem fieldless_ok (package name : String) (named : name ≠ "") :
    ∃ support mapper, standard.units (fieldless package name named) =
      .ok [⟨package, name ++ standard.settings.supportSuffix, support⟩,
        ⟨package, name ++ standard.settings.mapperSuffix, mapper⟩] :=
  standard_ok _ (.of_named (by simp [fieldless]))

theorem header_ne_empty (model : Model) : header model ≠ "" := by
  intro empty
  unfold header at empty
  have start := (String.append_eq_empty_iff.mp (String.append_eq_empty_iff.mp empty).1).1
  exact absurd start (by decide)

end Shipped

end Generator

end SqlScaffold
