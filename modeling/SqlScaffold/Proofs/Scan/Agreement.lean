import SqlScaffold.Proofs.Scan.Declaration

/-!
One entity given as a declaration and as a class. Both scans make a model of the same parts, except
that the scan of a class takes every type that starts with the mark of static members for one and
leaves its field out.
-/

namespace SqlScaffold.Scan

open Text

def readsAsStatic (typeName : String) : Bool :=
  startsWith "ClassVar" typeName || startsWith "typing.ClassVar" typeName

def unmarkedFields (fields : List Field) : List Field :=
  fields.filter fun field => !readsAsStatic field.typeName

structure AreWritable (name : String) (fields : List Field) : Prop where
  name : isIdentifier name = true
  fieldNames : ∀ field ∈ fields, isIdentifier field.name = true
  distinct : (fields.map Field.name).Nodup
  types : ∀ field ∈ fields, field.typeName ≠ "" ∧ trim field.typeName = field.typeName

def memberOf (field : Field) : Value :=
  .object [("name", .text field.name), ("type", .text field.typeName)]

def declarationOf (package name table : String) (fields : List Field) : Entries :=
  [("package", .text package), ("name", .text name), ("table", .text table),
    ("fields", .list (fields.map memberOf))]

def attributeOf (field : Field) : String × TypeHint :=
  (field.name, .literal (.text field.typeName))

def classOf (package name table module : String) (fields : List Field) : ModelClass where
  name := name
  module := module
  options := some ⟨some table, some package⟩
  attributes := fields.map attributeOf

@[simp] theorem fieldOf?_memberOf (field : Field) : fieldOf? (memberOf field) = some field := rfl

@[simp] theorem isStaticMember_memberOf (field : Field) :
    isStaticMember (memberOf field) = false := rfl

theorem persistedFields_memberOf (fields : List Field) :
    persistedFields (fields.map memberOf) = fields := by
  induction fields with
  | nil => rfl
  | cons field rest ih => simpa [persistedFields, List.filterMap_cons] using ih

/-- The members of a class that are taken for static leave no field; the others keep their names
and types. -/
theorem value_scanAttributes_attributeOf (model : String) {fields : List Field}
    (types : ∀ field ∈ fields, field.typeName ≠ "" ∧ trim field.typeName = field.typeName) :
    (scanAttributes model (fields.map attributeOf)).value =
      .ok (unmarkedFields fields) := by
  induction fields with
  | nil => rfl
  | cons field rest ih =>
    obtain ⟨⟨given, trimmed⟩, later⟩ := List.forall_mem_cons.mp types
    -- The types are trimmed, so the scan sees each of them as it is written.
    have mark : TypeHint.isStatic (.literal (.text field.typeName)) =
        readsAsStatic field.typeName := by
      simp [TypeHint.isStatic, readsAsStatic, trimmed]
    have typed : TypeHint.typeName? (.literal (.text field.typeName)) =
        .ok (some field.typeName) := by
      simp [TypeHint.typeName?, trimmed, given]
    rw [List.map_cons, attributeOf, scanAttributes]
    cases static : readsAsStatic field.typeName with
    | true => simp [mark, static, ih later, unmarkedFields]
    | false =>
      simp [mark, static, typed, Logged.map, ih later, Except.map, unmarkedFields]

section Entity

variable {package name table module : String} {fields : List Field}
  (writable : AreWritable name fields)

include writable

theorem isDeclaration_declarationOf : IsDeclaration (declarationOf package name table fields) where
  kind := by simp [declarationOf, Entries.get?, List.lookup_cons]
  name := by
    have visible := isBlank_of_isIdentifier writable.name
    obtain ⟨c, inside⟩ := List.exists_mem_of_ne_nil name.toList
      (by simpa using ne_empty_of_isIdentifier writable.name)
    exact ⟨name, rfl, c, inside, visible c inside⟩
  table := by simp [MayBeText, declarationOf, Entries.get?, List.lookup_cons]
  package := by simp [MayBeText, declarationOf, Entries.get?]
  members := by
    refine ⟨fields.map memberOf, rfl, ?formed, ?distinct⟩
    case formed =>
      intro member inside
      obtain ⟨field, present, rfl⟩ := List.mem_map.mp inside
      exact ⟨field, rfl, ne_empty_of_isIdentifier (writable.fieldNames field present),
        (writable.types field present).1⟩
    case distinct =>
      rw [persistedFields_memberOf]
      exact writable.distinct

theorem value_scan_declarationOf (given : package ≠ "") (defaultPackage : Option String)
    {model : Model} (made : Model.make package name fields (some table) = .ok model) :
    (Input.scan (.declaration (.object (declarationOf package name table fields)))
      defaultPackage).value = .ok model := by
  obtain ⟨_, _, ofPackage, ofName, ofFields, ofTable⟩ := Model.make_eq_ok_iff.mp made
  have trimmed : trim name = name := trim_eq_self (isBlank_of_isIdentifier writable.name)
  refine value_scan_iff.mpr ⟨_, rfl, isDeclaration_declarationOf writable, ?name, ?package, ofTable,
    ?fields⟩
  case name => rw [ofName]; exact congrArg some trimmed
  case package =>
    have read : textUnder? (declarationOf package name table fields) "package" = some package := rfl
    rw [ofPackage, read, firstGiven_cons]
    simp [given]
  case fields =>
    have read : membersOf? (declarationOf package name table fields) =
      some (fields.map memberOf) := rfl
    rw [read, Option.map_some, persistedFields_memberOf, ofFields]

/-- The class of an entity declares the model of its parts without the fields that are taken for
static. -/
theorem value_scan_classOf (given : package ≠ "") (defaultPackage : Option String) {model : Model}
    (made : Model.make package name (unmarkedFields fields) (some table) = .ok model) :
    (Input.scan (.modelClass (classOf package name table module fields)) defaultPackage).value =
      .ok model := by
  have own : firstGiven [some package, defaultPackage] module = package := by
    rw [firstGiven_cons]
    simp [given]
  refine value_andThenOk_eq_ok_iff.mpr
    ⟨_, value_scanAttributes_attributeOf name writable.types, ?_⟩
  have finished := value_finish_eq_ok_iff.mpr made
  simp [classOf, own, Logged.map, finished]

end Entity

/-- Both ways to give an entity lead to a model of its parts, and to the same model exactly if none
of its types starts with the mark of a static member. The class loses the fields of such types. -/
theorem scans_agree_iff {package name table : String} {fields : List Field}
    (given : package ≠ "") (writable : AreWritable name fields) (module : String)
    (defaultPackage otherPackage : Option String) :
    ∃ declared annotated,
      (Input.scan (.declaration (.object (declarationOf package name table fields)))
        defaultPackage).value = .ok declared ∧
      (Input.scan (.modelClass (classOf package name table module fields)) otherPackage).value =
        .ok annotated ∧
      Model.make package name fields (some table) = .ok declared ∧
      Model.make package name (unmarkedFields fields) (some table) = .ok annotated ∧
      (annotated = declared ↔ ∀ field ∈ fields, readsAsStatic field.typeName = false) := by
  have named := ne_empty_of_isIdentifier writable.name
  have fewer : ((unmarkedFields fields).map Field.name).Nodup :=
    (List.filter_sublist.map Field.name).nodup writable.distinct
  have whole : Model.make package name fields (some table) =
      .ok ⟨package, name, fields, some table, named, writable.distinct⟩ :=
    Model.make_eq_ok_iff.mpr ⟨named, writable.distinct, rfl, rfl, rfl, rfl⟩
  have part : Model.make package name (unmarkedFields fields) (some table) =
      .ok ⟨package, name, unmarkedFields fields, some table, named, fewer⟩ :=
    Model.make_eq_ok_iff.mpr ⟨named, fewer, rfl, rfl, rfl, rfl⟩
  refine ⟨_, _, value_scan_declarationOf writable given defaultPackage whole,
    value_scan_classOf writable given otherPackage part, whole, part, ?_⟩
  simp [unmarkedFields, List.filter_eq_self]

def variantFields : List Field := [⟨"kind", "ClassVariant"⟩, ⟨"id", "long"⟩]

theorem areWritable_variantFields : AreWritable "Order" variantFields where
  name := by decide +kernel
  fieldNames := by decide +kernel
  distinct := by decide
  types := by decide

theorem scans_agree_iff_variant :
    "com.example" ≠ "" ∧ AreWritable "Order" variantFields ∧
      ∃ declared annotated,
        (Input.scan (.declaration (.object
          (declarationOf "com.example" "Order" "orders" variantFields))) none).value =
            .ok declared ∧
        (Input.scan (.modelClass
          (classOf "com.example" "Order" "orders" "shop" variantFields)) none).value =
            .ok annotated ∧
        Model.make "com.example" "Order" variantFields (some "orders") = .ok declared ∧
        Model.make "com.example" "Order" (unmarkedFields variantFields) (some "orders") =
          .ok annotated ∧
        (annotated = declared ↔
          ∀ field ∈ variantFields, readsAsStatic field.typeName = false) :=
  ⟨by decide, areWritable_variantFields,
    scans_agree_iff (by decide) areWritable_variantFields "shop" none none⟩

/-- None of the types is the mark of a static member, alone or with its own type, and still the
class loses the field that the declaration has. -/
theorem scans_disagree :
    AreWritable "Order" variantFields ∧ (∀ field ∈ variantFields,
      field.typeName ∉ ["ClassVar", "typing.ClassVar"] ∧
        startsWith "ClassVar[" field.typeName = false ∧
        startsWith "typing.ClassVar[" field.typeName = false) ∧
      (Input.scan (.declaration (.object
        (declarationOf "com.example" "Order" "orders" variantFields))) none).value.toOption.map
          Model.fields = some variantFields ∧
      (Input.scan (.modelClass
        (classOf "com.example" "Order" "orders" "shop" variantFields)) none).value.toOption.map
          Model.fields = some [⟨"id", "long"⟩] := by
  refine ⟨areWritable_variantFields, by decide, ?declared, ?annotated⟩
  case declared => rfl
  case annotated => rfl

end SqlScaffold.Scan
