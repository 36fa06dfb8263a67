import SqlScaffold.Proofs.Json.Distinct
import SqlScaffold.Proofs.Settings.Kinds
import SqlScaffold.Settings.Stored

/-!
Layers of settings. The latest layer that holds a known key decides about it, and the keys that are
not known are put over the custom ones, layer by layer, so that none of them gets lost.
-/

namespace SqlScaffold

def unknownEntries (entries : Entries) : Entries :=
  entries.filter fun entry => !Draft.isKnown entry

theorem get?_unknownEntries (entries : Entries) (key : String) :
    (unknownEntries entries).get? key =
      if Setting.ofKey? key = none then entries.get? key else none := by
  unfold unknownEntries Draft.isKnown
  rw [Entries.get?_filter fun key => !(Setting.ofKey? key).isSome]
  simp

theorem unknownEntries_merge (base further : Entries) :
    unknownEntries (base.merge further) = (unknownEntries base).merge (unknownEntries further) :=
  Entries.filter_merge (fun key => !(Setting.ofKey? key).isSome) base further

namespace Draft

def take (draft : Draft) (entry : String × Value) : Draft :=
  match Setting.ofKey? entry.1 with
  | some setting => draft.set setting entry.2
  | none => draft

theorem get_take (draft : Draft) (entry : String × Value) (setting : Setting) :
    (draft.take entry).get setting = if entry.1 = setting.key then entry.2 else draft.get setting := by
  unfold take
  cases found : Setting.ofKey? entry.1 with
  | none =>
    have other : entry.1 ≠ setting.key := by
      intro same
      rw [same, Setting.ofKey?_key] at found
      cases found
    simp [other]
  | some known =>
    have key := Setting.ofKey?_eq_some_iff.mp found
    have same : entry.1 = setting.key ↔ setting = known := by
      rw [← Setting.ofKey?_eq_some_iff.trans eq_comm, found, Option.some.injEq, eq_comm]
    simp only [get_set, same]

theorem get_foldl_take {given : Entries} (distinct : given.AreDistinct) (draft : Draft)
    (setting : Setting) :
    (given.foldl take draft).get setting = (given.get? setting.key).getD (draft.get setting) := by
  induction given generalizing draft with
  | nil => rfl
  | cons entry rest ih =>
    obtain ⟨fresh, later⟩ := List.nodup_cons.mp distinct
    rw [List.foldl_cons, ih later, get_take, Entries.get?, Entries.get?, List.lookup_cons]
    by_cases same : entry.1 = setting.key
    · have absent : rest.lookup setting.key = none :=
        Keyed.lookup_eq_none_iff.mpr (same ▸ fresh)
      simp [same, absent]
    · simp [same, beq_eq_false_iff_ne.mpr (Ne.symm same)]

theorem get_ofKnown {given : Entries} (distinct : given.AreDistinct) (setting : Setting) :
    (ofKnown given).get setting = (given.get? setting.key).getD (get {} setting) :=
  get_foldl_take distinct {} setting

theorem keys_entries (draft : Draft) : draft.entries.map Prod.fst = Setting.all.map Setting.key := by
  rw [entries, List.map_map]
  rfl

theorem distinct_entries (draft : Draft) : draft.entries.AreDistinct := by
  rw [Entries.AreDistinct, keys_entries]
  decide

theorem get?_entries (draft : Draft) (setting : Setting) :
    draft.entries.get? setting.key = some (draft.get setting) :=
  (Entries.get?_eq_some_iff draft.distinct_entries).mpr
    (List.mem_map_of_mem setting.mem_all)

theorem unknownEntries_entries (draft : Draft) : unknownEntries draft.entries = [] := by
  refine List.filter_eq_nil_iff.mpr fun entry inside => ?_
  obtain ⟨setting, _, rfl⟩ := List.mem_map.mp inside
  simp [isKnown, Setting.ofKey?_key]

end Draft

def latest (file overrides : Entries) (setting : Setting) : Value :=
  ((overrides.get? setting.key).or (file.get? setting.key)).getD (Draft.get {} setting)

def truthyOrEmpty (value : Value) : Value := if value.isTruthy then value else .object []

def customBase (file overrides : Entries) : Value :=
  if unknownEntries file = [] ∧ unknownEntries overrides = [] then latest file overrides .custom
  else truthyOrEmpty (latest file overrides .custom)

theorem eq_of_customBase {file overrides base : Entries}
    (start : customBase file overrides = .object base) :
    base = [] ∨ latest file overrides .custom = .object base := by
  unfold customBase truthyOrEmpty at start
  split at start
  · exact .inr start
  · split at start
    · exact .inr start
    · exact .inl (Value.object.inj start).symm

structure Settings.MergesLayers (file overrides : Entries) (settings : Settings) : Prop where
  known : ∀ setting, setting ≠ .custom → settings.draft.get setting = latest file overrides setting
  custom : ∃ base, customBase file overrides = .object base ∧ ∀ key,
    settings.custom.get? key =
      (Entries.merge (Entries.merge base (unknownEntries file)) (unknownEntries overrides)).get? key
  unknown : ∀ key value, Setting.ofKey? key = none →
    (overrides.get? key).or (file.get? key) = some value → settings.custom.get? key = some value
  distinct : settings.custom.AreDistinct

section Merging

variable {file overrides : Entries}

def layered (file overrides : Entries) : Entries :=
  ((Draft.entries {}).merge file).merge overrides

theorem layered_distinct (file overrides : Entries) : (layered file overrides).AreDistinct :=
  ((Draft.distinct_entries {}).merge file).merge overrides

theorem unknownEntries_layered (distinct : file.AreDistinct) :
    unknownEntries (layered file overrides) =
      (unknownEntries file).merge (unknownEntries overrides) := by
  have fileDistinct : (unknownEntries file).AreDistinct := distinct.filter _
  rw [layered, unknownEntries_merge, unknownEntries_merge, Draft.unknownEntries_entries,
    Entries.nil_merge fileDistinct]

theorem unknownEntries_layered_eq_nil_iff (distinct : file.AreDistinct) :
    unknownEntries (layered file overrides) = [] ↔
      unknownEntries file = [] ∧ unknownEntries overrides = [] := by
  rw [unknownEntries_layered distinct, Entries.merge_eq_nil_iff]

theorem get_ofKnown_layered (fileDistinct : file.AreDistinct)
    (overridesDistinct : overrides.AreDistinct) (setting : Setting) :
    (Draft.ofKnown (layered file overrides)).get setting = latest file overrides setting := by
  rw [Draft.get_ofKnown (layered_distinct file overrides), layered,
    Entries.get?_merge _ overridesDistinct, Entries.get?_merge _ fileDistinct, Draft.get?_entries,
    latest]
  cases overrides.get? setting.key <;> cases file.get? setting.key <;> rfl

theorem ofMerged_eq (merged : Entries) :
    Draft.ofMerged merged =
      if unknownEntries merged = [] then .ok (.ofKnown merged)
      else
        (Draft.objectOf .customNotObject (truthyOrEmpty (Draft.ofKnown merged).custom)).map
          fun base => { Draft.ofKnown merged with
            custom := .object (Entries.merge base (unknownEntries merged)) } := by
  unfold Draft.ofMerged truthyOrEmpty
  change (if (unknownEntries merged).isEmpty then _ else _) = _
  by_cases empty : unknownEntries merged = []
  · simp [empty]
  · simp only [List.isEmpty_iff, empty, if_false]
    by_cases truthy : (Draft.ofKnown merged).custom.isTruthy
    · rw [if_pos truthy, if_pos truthy]
      rfl
    · rw [if_neg truthy, if_neg truthy]
      rfl

/-- Keys that are not known come from the latest layer that has them, over what was there. -/
theorem get?_custom (fileDistinct : file.AreDistinct) (overridesDistinct : overrides.AreDistinct)
    (base : Entries) {key : String} (unknown : Setting.ofKey? key = none) :
    ((base.merge (unknownEntries file)).merge (unknownEntries overrides)).get? key =
      (overrides.get? key).or ((file.get? key).or (base.get? key)) := by
  have first : (unknownEntries file).AreDistinct := fileDistinct.filter _
  have second : (unknownEntries overrides).AreDistinct := overridesDistinct.filter _
  rw [Entries.get?_merge _ second, Entries.get?_merge _ first, get?_unknownEntries,
    get?_unknownEntries, if_pos unknown, if_pos unknown]

/-- Merging the unknown entries at once or layer by layer gives the same map. -/
theorem get?_merge_unknown (fileDistinct : file.AreDistinct)
    (overridesDistinct : overrides.AreDistinct) (base : Entries) (key : String) :
    (base.merge (unknownEntries (layered file overrides))).get? key =
      ((base.merge (unknownEntries file)).merge (unknownEntries overrides)).get? key := by
  have first : (unknownEntries file).AreDistinct := fileDistinct.filter _
  have second : (unknownEntries overrides).AreDistinct := overridesDistinct.filter _
  rw [unknownEntries_layered fileDistinct, Entries.get?_merge _ (first.merge _),
    Entries.get?_merge _ second, Entries.get?_merge _ second, Entries.get?_merge _ first,
    Option.or_assoc]

theorem keyed_latest (fileKeyed : (Value.object file).IsKeyed)
    (overridesKeyed : (Value.object overrides).IsKeyed) (setting : Setting) :
    (latest file overrides setting).IsKeyed := by
  have defaults : (Draft.get {} setting).IsKeyed := by
    cases setting <;> first | exact .empty | constructor
  unfold latest
  cases given : overrides.get? setting.key with
  | some value => exact overridesKeyed.get given
  | none =>
    cases held : file.get? setting.key with
    | some value => exact fileKeyed.get held
    | none => exact defaults

theorem truthyOrEmpty_keyed {value : Value} (keyed : value.IsKeyed) :
    (truthyOrEmpty value).IsKeyed := by
  unfold truthyOrEmpty
  split
  · exact keyed
  · exact .empty

theorem customBase_keyed (fileKeyed : (Value.object file).IsKeyed)
    (overridesKeyed : (Value.object overrides).IsKeyed) :
    (customBase file overrides).IsKeyed := by
  have keyed := keyed_latest fileKeyed overridesKeyed .custom
  unfold customBase
  split
  · exact keyed
  · exact truthyOrEmpty_keyed keyed

/-- A merged draft has the latest values, and over the start of its custom settings all entries
under keys that are not known. -/
theorem latest_of_ofMerged (fileDistinct : file.AreDistinct)
    (overridesDistinct : overrides.AreDistinct) {draft : Draft}
    (merged : Draft.ofMerged (layered file overrides) = .ok draft) :
    (∀ setting, setting ≠ .custom → draft.get setting = latest file overrides setting) ∧
      ∀ entries, draft.custom = .object entries → ∃ base,
        customBase file overrides = .object base ∧
          entries = Entries.merge base (unknownEntries (layered file overrides)) := by
  have known := get_ofKnown_layered fileDistinct overridesDistinct
  have custom : (Draft.ofKnown (layered file overrides)).custom = latest file overrides .custom :=
    known .custom
  have nothing : unknownEntries (layered file overrides) = [] ↔ _ :=
    unknownEntries_layered_eq_nil_iff fileDistinct
  rw [ofMerged_eq] at merged
  unfold customBase
  split at merged
  · next empty =>
    cases merged
    refine ⟨fun setting _ => known setting, fun entries whole => ⟨entries, ?_, ?_⟩⟩
    · rw [if_pos (nothing.mp empty), ← custom, whole]
    · rw [empty, Entries.merge_nil]
  · next nonempty =>
    obtain ⟨base, started, rfl⟩ := Outcome.map_eq_ok_iff.mp merged
    rw [Draft.objectOf_eq_ok_iff, custom] at started
    refine ⟨fun setting other => ?_, fun entries whole => ⟨base, ?_, (Value.object.inj whole).symm⟩⟩
    · rw [← known]
      cases setting <;> first | rfl | exact absurd rfl other
    · rw [if_neg (mt nothing.mpr nonempty), started]

theorem mergesLayers_of_ofLayers {settings : Settings} (fileKeyed : (Value.object file).IsKeyed)
    (overridesKeyed : (Value.object overrides).IsKeyed)
    (made : Settings.ofLayers [file, overrides] = .ok settings) :
    settings.MergesLayers file overrides := by
  have fileDistinct := fileKeyed.distinct
  have overridesDistinct := overridesKeyed.distinct
  obtain ⟨draft, merged, checked⟩ :=
    Outcome.bind_eq_ok_iff.mp (Outcome.mapError_eq_ok_iff.mp made)
  obtain rfl := Draft.check_eq_ok_iff.mp checked
  obtain ⟨known, custom⟩ := latest_of_ofMerged fileDistinct overridesDistinct merged
  obtain ⟨base, start, whole⟩ := custom settings.custom rfl
  have distinct : Entries.AreDistinct base := (start ▸ customBase_keyed fileKeyed overridesKeyed).distinct
  have map (key : String) : settings.custom.get? key =
      (Entries.merge (Entries.merge base (unknownEntries file)) (unknownEntries overrides)).get?
        key := by
    rw [whole, get?_merge_unknown fileDistinct overridesDistinct]
  refine ⟨known, ⟨base, start, map⟩, fun key value fresh named => ?_, whole ▸ distinct.merge _⟩
  rw [map, get?_custom fileDistinct overridesDistinct base fresh, ← Option.or_assoc, named,
    Option.some_or]

end Merging

theorem overrideLayer_object (overrides : Entries) :
    overrideLayer (.object overrides) = .ok overrides := by
  unfold overrideLayer
  by_cases empty : overrides = []
  · simp [Value.isTruthy, empty]
  · have same : overrides.map (fun entry => (keyText (.text entry.1), entry.2)) = overrides :=
      List.map_id' overrides
    simp [Value.isTruthy, empty, Value.pairs, Except.map, Function.comp_def, same]

theorem overrideLayer_elim (overrides : Option Entries) :
    overrideLayer (overrides.elim .null .object) = .ok (overrides.getD []) := by
  cases overrides with
  | none => rfl
  | some given => exact overrideLayer_object given

theorem keyed_of_readGiven {tree : Files.FileTree} {file : Option String} {layer : Entries}
    (read : SettingsFile.readGiven tree file = .ok layer) : (Value.object layer).IsKeyed := by
  unfold SettingsFile.readGiven at read
  split at read
  · cases read
    exact .empty
  · split at read
    · cases read
      exact .empty
    · obtain ⟨found, _, afterFound⟩ := Outcome.bind_eq_ok_iff.mp read
      split at afterFound
      · cases afterFound
      · split at afterFound
        · cases afterFound
        · obtain ⟨content, _, afterContent⟩ := Outcome.bind_eq_ok_iff.mp afterFound
          obtain ⟨document, _, parsed⟩ := Outcome.bind_eq_ok_iff.mp afterContent
          split at parsed
          · cases parsed
          · cases parsed
          · next entries whole =>
            cases parsed
            exact Json.keyed_of_read whole
          · cases parsed

theorem load_object (tree : Files.FileTree) (given : Entries) :
    Settings.load tree (.object given) none = Settings.ofLayers [[], given] := by
  simp [Settings.load, SettingsFile.readGiven, overrideLayer_object, bind, Except.bind]

/-- Settings that are loaded are two layers over the defaults: what the file holds, and what is
given. -/
theorem load_mergesLayers {tree : Files.FileTree} {file : Option String}
    {overrides : Option Entries} {settings : Settings}
    (keyed : (Value.object (overrides.getD [])).IsKeyed)
    (loaded : Settings.load tree (overrides.elim .null .object) file = .ok settings) :
    ∃ layer, SettingsFile.readGiven tree file = .ok layer ∧
      settings.MergesLayers layer (overrides.getD []) := by
  obtain ⟨layer, read, afterRead⟩ := Outcome.bind_eq_ok_iff.mp loaded
  obtain ⟨further, given, made⟩ := Outcome.bind_eq_ok_iff.mp afterRead
  rw [overrideLayer_elim] at given
  cases given
  exact ⟨layer, read, mergesLayers_of_ofLayers (keyed_of_readGiven read) keyed made⟩

def settingsTree (document : String) : Files.FileTree := ⟨[(["s.json"], .text document)], []⟩

def layeredDocument : String :=
  "\x7b\"custom\": \x7b\"a\": 1\x7d, \"x\": 3, \"indent_size\": 2\x7d"

def layeredOverrides : Entries :=
  [("y", .null), ("x", .int 4), ("custom", .object [("indent_size", .int 9), ("x", .int 0)])]

def layeredSettings : Settings :=
  { indentSize := 2, custom := [("indent_size", .int 9), ("x", .int 4), ("y", .null)] }

def layeredFile : Entries :=
  [("custom", .object [("a", .int 1)]), ("x", .int 3), ("indent_size", .int 2)]

theorem readGiven_layered :
    SettingsFile.readGiven (settingsTree layeredDocument) (some "s.json") = .ok layeredFile := by
  have holds : (settingsTree layeredDocument).holds (.ofText "s.json") = .ok true := by
    decide +kernel
  have suffix : Text.lower (Files.Path.ofText "s.json").suffix = SettingsFile.suffix := by
    decide +kernel
  have content : (settingsTree layeredDocument).read (.ofText "s.json") =
      .ok (.text layeredDocument) := by
    decide +kernel
  have text : (Files.Content.text layeredDocument).readText = .ok layeredDocument := by
    decide +kernel
  have parsed : Json.read layeredDocument = .ok (.object layeredFile) := by
    simp only [Json.read, Json.readWith, layeredDocument, String.reduceToList]
    rfl
  simp [SettingsFile.readGiven, SettingsFile.read, holds, suffix, content, text, parsed, bind,
    Except.bind]

theorem load_layered : Settings.load (settingsTree layeredDocument) (.object layeredOverrides)
    (some "s.json") = .ok layeredSettings := by
  have made : Settings.ofLayers [layeredFile, layeredOverrides] = .ok layeredSettings := by rfl
  simp [Settings.load, readGiven_layered, overrideLayer_object, made, bind, Except.bind]

theorem layeredOverrides_keyed : (Value.object layeredOverrides).IsKeyed := by
  refine .object (by decide) ?_
  simp only [layeredOverrides, List.forall_mem_cons]
  refine ⟨.null, .int _, .object (by decide) ?_, by simp⟩
  simp only [List.forall_mem_cons]
  exact ⟨.int _, .int _, by simp⟩

theorem load_mergesLayers_overlapping :
    (Value.object layeredOverrides).IsKeyed ∧
      Settings.load (settingsTree layeredDocument) (.object layeredOverrides) (some "s.json") =
        .ok layeredSettings ∧
      ∃ layer, SettingsFile.readGiven (settingsTree layeredDocument) (some "s.json") = .ok layer ∧
        layeredSettings.MergesLayers layer layeredOverrides :=
  ⟨layeredOverrides_keyed, load_layered,
    @load_mergesLayers _ _ (some layeredOverrides) _ layeredOverrides_keyed load_layered⟩

end SqlScaffold
