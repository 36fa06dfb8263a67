import SqlScaffold.Proofs.Units.Reading

/-!
Units as templates write them. Where the indentation counts, a table support is in its final form
before it is brought into that form, and so is a mapper where the doubled indentation counts.
-/

namespace SqlScaffold

open Text Source Template

theorem Template.Library.render_eq_ok {library : Library} {template text : String}
    {context : Entries} {parts : List Part} (found : library.find template = .ok parts)
    (free : context.get? reservedName = none) (written : renderAll context parts = .ok text) :
    library.render template context = .ok text := by
  simp [Library.render, found, free, written, bind, Except.bind]

namespace Generator

variable {generator : Generator} {width : Nat} {model : Model}

def WritesFinal (generator : Generator) (width : Nat) (template : String) (model : Model)
    (entries : Entries) : Prop :=
  ∃ text, generator.library.render template
      (entries ++ commonEntries generator.settings width model) = .ok text ∧
    normalize text = text ∧ IsFinal text ∧ AreSpaced (splitLines text)

def WritesFinalSupport (generator : Generator) (model : Model) : Prop :=
  ∃ width, generator.settings.indentWidth = .ok width ∧
    generator.WritesFinal width tableSupportName model (generator.support model).entries

def WritesFinalMapper (generator : Generator) (model : Model) : Prop :=
  ∃ width mapper, generator.settings.indentWidth = .ok width ∧
    generator.interface width model = .ok mapper ∧
    generator.WritesFinal width mapperName model mapper.entries

theorem writesFinal_of_layOut {template : String} {entries : Entries} {parts : List Part}
    {paragraphs : List (List String)} {ending : String}
    (found : generator.library.find template = .ok parts)
    (free : Entries.get? (entries ++ commonEntries generator.settings width model)
      reservedName = none)
    (written : renderAll (entries ++ commonEntries generator.settings width model) parts =
      .ok (textOf (layOut paragraphs ++ [ending])))
    (laid : ∀ lines ∈ paragraphs, IsParagraph lines) (kept : IsKept ending) :
    generator.WritesFinal width template model entries := by
  refine ⟨_, Library.render_eq_ok found free written, normalize_layOut laid kept,
    isFinal_layOut laid kept, ?_⟩
  rw [splitLines_textOf (unbroken_layOut laid kept)]
  exact areSpaced_layOut laid kept.filled

theorem render_of_writesFinal {template name : String} {entries : Entries}
    (final : generator.WritesFinal width template model entries) :
    ∃ unit, generator.render width template model entries name = .ok unit := by
  obtain ⟨text, rendered, _⟩ := final
  exact ⟨⟨model.package, name, normalize text⟩, by simp [render, rendered, bind, Except.bind]⟩

variable (shipped : generator.library = .shipped) (unbroken : model.HasUnbrokenTexts)
  (suffixes : generator.settings.HasUnbrokenSuffixes)

include shipped unbroken suffixes

theorem writesFinalSupport_iff : generator.WritesFinalSupport model ↔
    -countLimit ≤ generator.settings.indentSize ∧ generator.settings.indentSize < roomLimit := by
  rw [← blankCount_ok_iff]
  constructor
  · rintro ⟨width, counted, _⟩
    exact ⟨width, counted⟩
  · rintro ⟨width, counted⟩
    have found : generator.library.find tableSupportName = .ok tableSupport :=
      shipped ▸ find_tableSupport
    refine ⟨width, counted, ?_⟩
    exact writesFinal_of_layOut found rfl (renderAll_support unbroken width)
      (isParagraph_of_mem_support unbroken suffixes width) (by decide)

theorem writesFinalMapper_iff (named : ∀ field ∈ model.fields, field.name ≠ "") :
    generator.WritesFinalMapper model ↔ generator.settings.Indentable := by
  have formed (width : Nat) :
      generator.interface width model = .ok (generator.mapper width model) :=
    Mapper.Interface.ofModel_eq _ _ width _ named
  rw [Settings.indentable_iff]
  constructor
  · rintro ⟨width, mapper, counted, made, final⟩
    obtain rfl := Except.ok.inj (made.symm.trans (formed width))
    obtain ⟨unit, rendered⟩ := render_of_writesFinal final
    exact ⟨⟨width, counted⟩, blankCount_of_mapper_render shipped rendered⟩
  · rintro ⟨⟨width, counted⟩, twice, doubled⟩
    have found : generator.library.find mapperName = .ok Template.mapper := shipped ▸ find_mapper
    refine ⟨width, _, counted, formed width, ?_⟩
    exact writesFinal_of_layOut found rfl (renderAll_mapper unbroken suffixes counted doubled)
      (isParagraph_of_mem_mapper unbroken suffixes width) (by decide)

end Generator

/-- Whatever settings and texts of one line a generator is given, only the size of the indentation
decides whether both units are written, and no unit needs to be brought into its final form. -/
theorem Generator.writesFinal_iff {settings : Settings} {generator : Generator}
    (made : Generator.make settings .shipped = .ok generator) {model : Model}
    (named : ∀ field ∈ model.fields, field.name ≠ "") (unbroken : model.HasUnbrokenTexts)
    (suffixes : settings.HasUnbrokenSuffixes) :
    (generator.WritesFinalSupport model ↔
        -countLimit ≤ settings.indentSize ∧ settings.indentSize < roomLimit) ∧
      (generator.WritesFinalMapper model ↔ settings.Indentable) := by
  obtain ⟨rfl, shipped⟩ := Generator.make_eq_ok made
  constructor
  · exact Generator.writesFinalSupport_iff shipped unbroken suffixes
  · exact Generator.writesFinalMapper_iff shipped unbroken suffixes named

def outdented : Settings := { indentSize := -3 }

theorem Generator.writesFinal_iff_outdented :
    Generator.make outdented .shipped = .ok ⟨outdented, ⟨[]⟩, .shipped⟩ ∧
      (∀ field ∈ labelledItem.fields, field.name ≠ "") ∧ labelledItem.HasUnbrokenTexts ∧
      outdented.HasUnbrokenSuffixes ∧
      Generator.WritesFinalSupport ⟨outdented, ⟨[]⟩, .shipped⟩ labelledItem ∧
      Generator.WritesFinalMapper ⟨outdented, ⟨[]⟩, .shipped⟩ labelledItem := by
  have made : Generator.make outdented .shipped = .ok ⟨outdented, ⟨[]⟩, .shipped⟩ := rfl
  have named := labelledItem_orderly.named
  have unbroken := labelledItem_orderly.unbroken
  have suffixes : outdented.HasUnbrokenSuffixes := ⟨by decide, by decide, by decide⟩
  obtain ⟨support, mapper⟩ := Generator.writesFinal_iff made named unbroken suffixes
  exact ⟨made, named, unbroken, suffixes, support.mpr (by decide), mapper.mpr (by decide)⟩

def farOutdented : Settings := { indentSize := -0x8000000000000001 }

theorem Generator.not_writesFinal_farOutdented :
    Generator.make farOutdented .shipped = .ok ⟨farOutdented, ⟨[]⟩, .shipped⟩ ∧
      (∀ field ∈ labelledItem.fields, field.name ≠ "") ∧ labelledItem.HasUnbrokenTexts ∧
      farOutdented.HasUnbrokenSuffixes ∧
      ¬Generator.WritesFinalSupport ⟨farOutdented, ⟨[]⟩, .shipped⟩ labelledItem ∧
      ¬Generator.WritesFinalMapper ⟨farOutdented, ⟨[]⟩, .shipped⟩ labelledItem ∧
      Generator.units ⟨farOutdented, ⟨[]⟩, .shipped⟩ labelledItem =
        .error (.blanks .uncountable) := by
  have named := labelledItem_orderly.named
  have unbroken := labelledItem_orderly.unbroken
  have suffixes : farOutdented.HasUnbrokenSuffixes := ⟨by decide, by decide, by decide⟩
  have uncounted : farOutdented.indentWidth = .error .uncountable := by decide
  refine ⟨rfl, named, unbroken, suffixes, ?support, ?mapper, ?units⟩
  case support =>
    rw [Generator.writesFinalSupport_iff rfl unbroken suffixes]
    decide
  case mapper =>
    rw [Generator.writesFinalMapper_iff rfl unbroken suffixes named]
    decide
  case units =>
    exact (Generator.units_shipped rfl (.of_named named)).2.1 _ uncounted

end SqlScaffold
