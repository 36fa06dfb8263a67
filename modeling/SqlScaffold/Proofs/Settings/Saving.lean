import SqlScaffold.Proofs.Files.Making
import SqlScaffold.Proofs.Json.Document
import SqlScaffold.Proofs.Sameness
import SqlScaffold.Proofs.Settings.Layers

/-!
Saved settings. A file of settings has the custom keys beside the known ones. Loading it gives the
same settings back unless a custom key has the name of a setting, and then it never does.
-/

namespace SqlScaffold

open Files

theorem Files.FileTree.read_of_write {tree after : FileTree} {path : Path} {content : Content}
    (written : tree.write path content = .ok after) :
    after.holds path = .ok true ∧ after.read path = .ok content := by
  obtain ⟨location, located, extended, held, _⟩ := FileTree.write_spec written
  have still := extended.locate located
  have file := FileTree.file_of_content? held
  exact ⟨by simp [FileTree.holds, still, file], FileTree.read_eq_ok_iff.mpr ⟨location, still, held⟩⟩

def Files.FileTree.Admits (tree : FileTree) (path : Path) : Prop :=
  ∃ location, tree.locate path = .ok location ∧ tree.kind? location ≠ some .directory

theorem Files.FileTree.Admits.write {tree : FileTree} {path : Path} (admitted : tree.Admits path)
    (content : Content) : ∃ after, tree.write path content = .ok after := by
  obtain ⟨location, located, undirected⟩ := admitted
  exact ⟨_, FileTree.write_of_located located undirected content⟩

theorem Draft.ext_get {first second : Draft} (same : ∀ setting, first.get setting = second.get setting) :
    first = second := by
  rw [← ofKnown_entries first, ← ofKnown_entries second, entries, entries]
  simp only [same]

def Settings.stored (settings : Settings) : Entries :=
  Entries.merge (settings.draft.entries.filter fun entry => entry.1 != Setting.custom.key)
    settings.custom

theorem Settings.layout_draft (settings : Settings) :
    settings.draft.layout = .ok settings.stored := by
  have laid := foldl_putLoosely
    (settings.draft.entries.filter fun entry => entry.1 != Setting.custom.key) settings.custom
  have keys : ∀ entries : Entries, entries.map (fun entry => (keyText (.text entry.1), entry.2)) =
      entries := fun entries => List.map_id' entries
  have pairs : settings.draft.custom.pairs =
      .ok (settings.custom.map fun entry => (.text entry.1, entry.2)) := rfl
  simp only [Draft.layout, pairs, bind, Except.bind, laid, List.map_map, Function.comp_def, keys,
    stored]

/-- Custom settings of which none has the name of a setting. -/
def Settings.StandsApart (settings : Settings) : Prop :=
  ∀ entry ∈ settings.custom, Setting.ofKey? entry.1 = none

instance (settings : Settings) : Decidable settings.StandsApart :=
  inferInstanceAs (Decidable (∀ entry ∈ settings.custom, _))

section Stored

variable {settings : Settings} (distinct : settings.custom.AreDistinct)

theorem Settings.stored_distinct (settings : Settings) : settings.stored.AreDistinct :=
  (settings.draft.distinct_entries.filter _).merge settings.custom

theorem Settings.exists_start_of_stored {other : Settings}
    (keyed : (Value.object settings.stored).IsKeyed)
    (made : Settings.ofLayers [settings.stored, []] = .ok other) :
    ∃ base, customBase settings.stored [] = .object base ∧
      ∀ setting : Setting, other.custom.get? setting.key = Entries.get? base setting.key := by
  obtain ⟨base, start, custom⟩ := (mergesLayers_of_ofLayers keyed .empty made).custom
  refine ⟨base, start, fun setting => ?_⟩
  have absent : (unknownEntries settings.stored).get? setting.key = none := by
    rw [get?_unknownEntries, if_neg (by simp [Setting.ofKey?_key])]
  have unknown : (unknownEntries settings.stored).AreDistinct := keyed.distinct.filter _
  have nothing : unknownEntries [] = [] := rfl
  rw [custom, nothing, Entries.merge_nil, Entries.get?_merge _ unknown, absent, Option.none_or]

theorem Settings.exists_known_of_mixed (mixed : ¬settings.StandsApart) :
    ∃ (setting : Setting) (value : Value), (setting.key, value) ∈ settings.custom := by
  unfold StandsApart at mixed
  push Not at mixed
  obtain ⟨entry, inside, known⟩ := mixed
  obtain ⟨setting, named⟩ := Option.ne_none_iff_exists'.mp known
  exact ⟨setting, entry.2, by rwa [Setting.ofKey?_eq_some_iff.mp named]⟩

include distinct

/-- A file of saved settings holds the custom value of a key, or else the known one. -/
theorem Settings.get?_stored (setting : Setting) :
    settings.stored.get? setting.key = (settings.custom.get? setting.key).or
      (if setting = .custom then none else some (settings.draft.get setting)) := by
  have known : setting.key ≠ Setting.custom.key ↔ setting ≠ .custom := by
    cases setting <;> decide
  rw [stored, Entries.get?_merge _ distinct, Entries.get?_filter fun key => key != Setting.custom.key,
    Draft.get?_entries]
  by_cases same : setting = .custom
  · simp [same]
  · simp [same, known.mpr same]

theorem Settings.unknownEntries_stored :
    unknownEntries settings.stored = unknownEntries settings.custom := by
  have known : unknownEntries (settings.draft.entries.filter fun entry =>
      entry.1 != Setting.custom.key) = [] := by
    refine List.filter_eq_nil_iff.mpr fun entry inside => ?_
    have listed := List.mem_of_mem_filter inside
    exact List.filter_eq_nil_iff.mp settings.draft.unknownEntries_entries entry listed
  have custom : (unknownEntries settings.custom).AreDistinct := distinct.filter _
  rw [stored, unknownEntries_merge, known, Entries.nil_merge custom]

/-- Loading saved settings gives them back, if no custom key is the name of a setting. -/
theorem Settings.ofLayers_stored (apart : settings.StandsApart) :
    Settings.ofLayers [settings.stored, []] = .ok settings := by
  have absent : ∀ setting : Setting, settings.custom.get? setting.key = none := by
    intro setting
    refine Entries.get?_eq_none_iff.mpr fun inside => ?_
    obtain ⟨entry, listed, same⟩ := List.mem_map.mp inside
    have unknown := apart entry listed
    rw [same, Setting.ofKey?_key] at unknown
    cases unknown
  have all : unknownEntries settings.custom = settings.custom :=
    List.filter_eq_self.mpr fun entry inside => by simp [Draft.isKnown, apart entry inside]
  have unknown : unknownEntries (layered settings.stored []) = settings.custom := by
    rw [unknownEntries_layered settings.stored_distinct, unknownEntries_stored distinct, all]
    rfl
  have known : Draft.ofKnown (layered settings.stored []) =
      { settings.draft with custom := .object [] } := by
    refine Draft.ext_get fun setting => ?_
    rw [get_ofKnown_layered settings.stored_distinct Entries.distinct_nil, latest,
      get?_stored distinct, absent]
    cases setting <;> rfl
  have merged : Draft.ofMerged (layered settings.stored []) = .ok settings.draft := by
    rw [ofMerged_eq]
    by_cases empty : settings.custom = []
    · rw [if_pos (unknown.trans empty), known, Settings.draft, empty]
    · rw [if_neg (unknown ▸ empty), known, unknown]
      have whole := Entries.nil_merge distinct
      simp only [truthyOrEmpty, Value.isTruthy, List.isEmpty_nil, Bool.not_true, Bool.false_eq_true,
        if_false, Draft.objectOf, Except.map, whole]
      rfl
  have made : Draft.ofLayers [settings.stored, []] = .ok settings.draft := merged
  have checked : settings.draft.check = .ok settings := Draft.check_eq_ok_iff.mpr rfl
  simp [Settings.ofLayers, made, checked, bind, Except.bind]

theorem Settings.latest_stored_custom :
    latest settings.stored [] .custom =
      (settings.custom.get? Setting.custom.key).getD (.object []) := by
  rw [latest, get?_stored distinct]
  cases settings.custom.get? Setting.custom.key <;> rfl

/-- Settings loaded from saved ones of which a custom key is the name of a setting are others. -/
theorem Settings.not_same_of_stored {other : Settings} (mixed : ¬settings.StandsApart)
    (keyed : (Value.object settings.stored).IsKeyed)
    (made : Settings.ofLayers [settings.stored, []] = .ok other) :
    settings.draft.same other.draft = false := by
  obtain ⟨base, start, known⟩ := exists_start_of_stored keyed made
  refine Bool.eq_false_iff.mpr fun same => ?_
  have entries : Value.sameEntries settings.custom other.custom = true :=
    (Bool.and_eq_true_iff.mp (List.all_eq_true.mp same .custom (Setting.mem_all _))).2
  -- A custom value under a known key comes from the start, so the start is not empty.
  have found : ∀ {setting : Setting} {value : Value}, (setting.key, value) ∈ settings.custom →
      ∃ held, Entries.get? base setting.key = some held ∧ value.same held = true := by
    intro setting value inside
    rw [← known]
    exact Value.same_of_sameEntries entries inside
  have filled : base ≠ [] := by
    rintro rfl
    obtain ⟨setting, value, inside⟩ := exists_known_of_mixed mixed
    obtain ⟨held, there, _⟩ := found inside
    cases there
  have start := (eq_of_customBase start).resolve_left filled
  rw [latest_stored_custom distinct] at start
  cases nested : settings.custom.get? Setting.custom.key with
  | none =>
    rw [nested] at start
    exact filled (Value.object.inj start).symm
  | some value =>
    -- The start is the custom value of the key that custom settings have, so it stands in itself.
    rw [nested, Option.getD_some] at start
    obtain ⟨held, inside, equal⟩ := found ((Entries.get?_eq_some_iff distinct).mp nested)
    rw [start, Value.not_same_of_get? inside] at equal
    cases equal

end Stored

namespace SettingsFile

def IsNamed (name : String) : Prop := Text.lower (Path.ofText name).suffix = suffix

instance (name : String) : Decidable (IsNamed name) := inferInstanceAs (Decidable (_ = _))

theorem IsNamed.ne_empty {name : String} (named : IsNamed name) : name ≠ "" := by
  rintro rfl
  exact absurd named (by decide +kernel)

theorem readGiven_of_write {tree saved : FileTree} {name : String} {entries : Entries}
    (named : IsNamed name)
    (written : tree.write (.ofText name) (.text (Json.document (.object entries))) = .ok saved)
    (decodes : Json.read (Json.document (.object entries)) = .ok (.object entries)) :
    readGiven saved (some name) = .ok entries := by
  obtain ⟨holds, content⟩ := FileTree.read_of_write written
  have given : readGiven saved (some name) = read saved (.ofText name) := if_neg named.ne_empty
  have suffix : ¬Text.lower (Path.ofText name).suffix ≠ SettingsFile.suffix := not_not.mpr named
  simp only [given, read, holds, content, Json.readText_document, decodes, bind, Except.bind,
    Outcome.mapError_ok, Bool.not_true, Bool.false_eq_true, if_false, if_neg suffix]

end SettingsFile

/-- Settings are saved to every path that admits a file, and loading what was saved merges it over
the defaults. -/
theorem load_of_save {tree : FileTree} {settings : Settings} {name : String}
    (named : SettingsFile.IsNamed name) (admitted : tree.Admits (.ofText name))
    (decodes : Json.read (Json.document (.object settings.stored)) = .ok (.object settings.stored)) :
    ∃ saved content, SettingsFile.save tree (.ofText name) settings.draft = .ok (saved, content) ∧
      Settings.load saved .null (some name) = Settings.ofLayers [settings.stored, []] := by
  obtain ⟨saved, written⟩ := admitted.write (.text (Json.document (.object settings.stored)))
  have read := SettingsFile.readGiven_of_write named written decodes
  refine ⟨saved, Json.document (.object settings.stored), ?saves, ?loads⟩
  case saves =>
    simp [SettingsFile.save, SettingsFile.text, settings.layout_draft, Except.map, written, bind,
      Except.bind]
  case loads =>
    simp only [Settings.load, read, bind, Except.bind]
    rfl

/-- Where documents are read as they were written, loading saved settings gives the same settings
back if no custom key has the name of a setting, and other ones or none if some custom key has. -/
theorem save_load {source tree : FileTree} {overrides : Option Entries} {file : Option String}
    {settings : Settings} {name : String}
    (keyed : (Value.object (overrides.getD [])).IsKeyed)
    (loaded : Settings.load source (overrides.elim .null .object) file = .ok settings)
    (named : SettingsFile.IsNamed name) (admitted : tree.Admits (.ofText name))
    (decodes : ∀ entries, settings.draft.layout = .ok entries →
      Json.read (Json.document (.object entries)) = .ok (.object entries)) :
    ∃ saved content, SettingsFile.save tree (.ofText name) settings.draft = .ok (saved, content) ∧
      (settings.StandsApart → Settings.load saved .null (some name) = .ok settings) ∧
      (¬settings.StandsApart → ∀ other, Settings.load saved .null (some name) = .ok other →
        settings.draft.same other.draft = false) := by
  obtain ⟨_, _, merges⟩ := load_mergesLayers keyed loaded
  have distinct := merges.distinct
  have decoded := decodes _ settings.layout_draft
  obtain ⟨saved, content, saves, loads⟩ := load_of_save named admitted decoded
  refine ⟨saved, content, saves, ?apart, ?mixed⟩
  case apart =>
    intro apart
    rw [loads, Settings.ofLayers_stored distinct apart]
  case mixed =>
    intro mixed other reloaded
    rw [loads] at reloaded
    exact Settings.not_same_of_stored distinct mixed (Json.keyed_of_read decoded) reloaded

def authoredOverrides : Entries :=
  [("mapper_suffix", .text "Mapper"), ("n", .list [.null]),
    ("custom", .object [("author", .text "a\n\"b\"")])]

def authoredSettings : Settings :=
  { mapperSuffix := "Mapper", custom := [("author", .text "a\n\"b\""), ("n", .list [.null])] }

theorem emptyTree_admits : FileTree.Admits ⟨[], []⟩ (.ofText "s.json") :=
  ⟨["s.json"], by decide +kernel, by decide⟩

theorem isNamed_example : SettingsFile.IsNamed "s.json" := by decide +kernel

theorem keyed_authoredOverrides : (Value.object authoredOverrides).IsKeyed := by
  refine .object (by decide) ?_
  simp only [authoredOverrides, List.forall_mem_cons, List.not_mem_nil, false_imp_iff, implies_true,
    and_true]
  refine ⟨.text _, .list (by simpa using .null), .object (by decide) ?_⟩
  simpa using Value.IsKeyed.text _

theorem load_authoredOverrides :
    Settings.load ⟨[], []⟩ (.object authoredOverrides) none = .ok authoredSettings := by
  rw [load_object]
  rfl

set_option maxRecDepth 8000 in
theorem decodes_authored : ∀ entries, authoredSettings.draft.layout = .ok entries →
    Json.read (Json.document (.object entries)) = .ok (.object entries) := by
  intro entries laid
  rw [Settings.layout_draft, Except.ok.injEq] at laid
  rw [← laid, Json.read_document]
  rfl

theorem save_load_authored :
    Settings.load ⟨[], []⟩ (.object authoredOverrides) none = .ok authoredSettings ∧
      authoredSettings.StandsApart ∧ ∃ saved content,
        SettingsFile.save ⟨[], []⟩ (.ofText "s.json") authoredSettings.draft =
            .ok (saved, content) ∧
          Settings.load saved .null (some "s.json") = .ok authoredSettings := by
  have apart : authoredSettings.StandsApart := by decide
  obtain ⟨saved, content, saves, loads, _⟩ :=
    @save_load _ _ (some authoredOverrides) _ _ _ keyed_authoredOverrides load_authoredOverrides
      isNamed_example emptyTree_admits decodes_authored
  exact ⟨load_authoredOverrides, apart, saved, content, saves, loads apart⟩

def shadowingOverrides : Entries := [("custom", .object [("indent_size", .int 2)])]

def shadowingSettings : Settings := { custom := [("indent_size", .int 2)] }

set_option maxRecDepth 8000 in
/-- The custom key takes the place of the setting in the file, and is gone from the custom ones. -/
theorem save_load_shadowing :
    Settings.load ⟨[], []⟩ (.object shadowingOverrides) none = .ok shadowingSettings ∧
      ∃ saved content,
        SettingsFile.save ⟨[], []⟩ (.ofText "s.json") shadowingSettings.draft =
            .ok (saved, content) ∧
          Settings.load saved .null (some "s.json") = .ok { indentSize := 2 } ∧
          shadowingSettings.draft.same (Settings.draft { indentSize := 2 }) = false := by
  have decodes : Json.read (Json.document (.object shadowingSettings.stored)) =
      .ok (.object shadowingSettings.stored) := by
    rw [Json.read_document]
    rfl
  obtain ⟨saved, content, saves, loads⟩ :=
    load_of_save isNamed_example emptyTree_admits decodes
  refine ⟨by rw [load_object]; rfl, saved, content, saves, ?_, by decide +kernel⟩
  rw [loads]
  rfl

end SqlScaffold
