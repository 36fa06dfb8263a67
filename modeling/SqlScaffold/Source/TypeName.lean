import SqlScaffold.Text.Lines

/-!
Type names in generated sources. A simple name can mean only one type in a file: the first type to
claim it is written short and imported where necessary, and a later type of the same simple name
is written in full. Unqualified names claim first, as they cannot be written in any other way.
-/

namespace SqlScaffold.Source

open Text

def wellKnownTypes : List (String × String) :=
  [("LocalDateTime", "java.time.LocalDateTime"), ("LocalDate", "java.time.LocalDate"),
    ("LocalTime", "java.time.LocalTime"), ("OffsetDateTime", "java.time.OffsetDateTime"),
    ("Instant", "java.time.Instant"), ("BigDecimal", "java.math.BigDecimal"),
    ("BigInteger", "java.math.BigInteger"), ("UUID", "java.util.UUID")]

def languageTypes : List String :=
  ["String", "Object", "Integer", "Long", "Short", "Byte", "Boolean", "Double", "Float",
    "Character"]

/-- Generic and array types are taken as written, whatever points they hold. -/
def isQualified (typeName : String) : Bool :=
  typeName.toList.contains '.' && !typeName.toList.any fun c => ['<', '>', '[', ']'].contains c

def splitType (typeName : String) : String × String :=
  (splitLast '.' typeName).getD (typeName, typeName)

def simpleName (typeName : String) : String :=
  if isQualified typeName then (splitType typeName).2 else typeName

def importOf (typeName : String) : Option String :=
  if isQualified typeName then
    if (splitType typeName).1 = "java.lang" then none else some typeName
  else wellKnownTypes.lookup typeName

def canonicalName (typeName : String) : String :=
  if isQualified typeName then typeName
  else
    match wellKnownTypes.lookup typeName with
    | some qualified => qualified
    | none => if languageTypes.contains typeName then "java.lang." ++ typeName else typeName

def insertName (name : String) : List String → List String
  | [] => [name]
  | head :: rest =>
    if name = head then head :: rest
    else if name < head then name :: head :: rest
    else head :: insertName name rest

def ascending (names : List String) : List String := names.foldr insertName []

def importInto (package typeName : String) : List String :=
  match importOf typeName with
  | some imported =>
    if imported = "" || (splitType imported).1 = package then [] else [imported]
  | none => []

def importsOf (typeNames : List String) (package : String) : List String :=
  ascending (typeNames.flatMap (importInto package))

structure References where
  written : List (String × String)
  imports : List String
  deriving DecidableEq, Repr

abbrev Owners := List (String × String)

/-- A reserved name takes its simple name from whoever held it. -/
def reserve (owners : Owners) (name : String) : Owners :=
  (simpleName name, canonicalName name) :: owners

def reservedOwners (names : List String) : Owners := names.foldl reserve []

def firstOccurrences (seen : List String) : List String → List String
  | [] => []
  | name :: rest =>
    if seen.contains name then firstOccurrences seen rest
    else name :: firstOccurrences (name :: seen) rest

def claimOrder (typeNames : List String) : List String :=
  let unique := firstOccurrences [] typeNames
  unique.filter (fun name => !isQualified name) ++ unique.filter isQualified

def claim (package : String) : Owners → List String → References
  | _, [] => ⟨[], []⟩
  | owners, typeName :: rest =>
    let simple := simpleName typeName
    let canonical := canonicalName typeName
    match owners.lookup simple with
    | some owner =>
      let later := claim package owners rest
      if owner = canonical then
        ⟨(typeName, simple) :: later.written, importInto package typeName ++ later.imports⟩
      else ⟨(typeName, typeName) :: later.written, later.imports⟩
    | none =>
      let later := claim package ((simple, canonical) :: owners) rest
      ⟨(typeName, simple) :: later.written, importInto package typeName ++ later.imports⟩

/-- Decides how each type is written in a file of a package that already imports or declares the
reserved names. -/
def resolve (typeNames : List String) (package : String) (reserved : List String) : References :=
  let claimed := claim package (reservedOwners reserved) (claimOrder typeNames)
  ⟨claimed.written, ascending claimed.imports⟩

theorem mem_insertName (name other : String) (names : List String) :
    other ∈ insertName name names ↔ other = name ∨ other ∈ names := by
  induction names with
  | nil => simp [insertName]
  | cons head rest ih =>
    simp only [insertName]
    split
    · next same => subst same; simp
    · split
      · simp
      · simp only [List.mem_cons, ih]
        constructor
        · rintro (first | first | later)
          · exact Or.inr (Or.inl first)
          · exact Or.inl first
          · exact Or.inr (Or.inr later)
        · rintro (first | first | later)
          · exact Or.inr (Or.inl first)
          · exact Or.inl first
          · exact Or.inr (Or.inr later)

theorem mem_ascending (name : String) (names : List String) :
    name ∈ ascending names ↔ name ∈ names := by
  induction names with
  | nil => simp [ascending]
  | cons head rest ih =>
    have step : ascending (head :: rest) = insertName head (ascending rest) := rfl
    rw [step, mem_insertName, ih, List.mem_cons]

theorem pairwise_insertName (name : String) (names : List String)
    (sorted : names.Pairwise (· < ·)) : (insertName name names).Pairwise (· < ·) := by
  induction names with
  | nil => simp [insertName]
  | cons head rest ih =>
    have parts := List.pairwise_cons.mp sorted
    simp only [insertName]
    split
    · exact sorted
    · next different =>
      split
      · next below =>
        refine List.pairwise_cons.mpr ⟨?_, sorted⟩
        intro other member
        rcases List.mem_cons.mp member with first | later
        · exact first ▸ below
        · exact String.lt_trans below (parts.1 other later)
      · next above =>
        have ordered : head ≤ name := String.not_lt.mp above
        have upward : head < name := Std.lt_of_le_of_ne ordered fun same => different same.symm
        refine List.pairwise_cons.mpr ⟨?_, ih parts.2⟩
        intro other member
        rcases (mem_insertName name other rest).mp member with first | later
        · exact first ▸ upward
        · exact parts.1 other later

/-- The names ascend strictly, so that none of them occurs twice. -/
theorem pairwise_ascending (names : List String) : (ascending names).Pairwise (· < ·) := by
  induction names with
  | nil => exact List.Pairwise.nil
  | cons head rest ih => exact pairwise_insertName head (ascending rest) ih

end SqlScaffold.Source
