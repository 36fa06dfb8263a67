import SqlScaffold.Proofs.Naming.TableNames

/-!
Column names beside default table names. Of an ASCII name both rules make the lower form of its first
character and then go over the pairs of neighbours: a column name has an underscore in every pair of
a small letter and a capital, and a table name in every pair that ends with a capital. So the table
name is longer by the capitals that follow no small letter, and without them both names are the same.
-/

namespace SqlScaffold.Naming

open Text

def neighbours (chars : List Char) : List (Char × Char) := chars.zip chars.tail

def endsLone (pair : Char × Char) : Bool := isCapital pair.2 && !isSmall pair.1

def columnStep (pair : Char × Char) : List Char :=
  if isSmall pair.1 && isCapital pair.2 then ['_', pair.2.toLower] else [pair.2.toLower]

def tableStep (pair : Char × Char) : List Char :=
  if isCapital pair.2 then ['_', pair.2.toLower] else [pair.2.toLower]

theorem neighbours_cons_cons (first second : Char) (rest : List Char) :
    neighbours (first :: second :: rest) = (first, second) :: neighbours (second :: rest) := rfl

theorem columnStep_of_not_lone {pair : Char × Char} (other : endsLone pair = false) :
    columnStep pair = tableStep pair := by
  unfold columnStep tableStep
  cases capital : isCapital pair.2 with
  | true =>
    have small : isSmall pair.1 = true := by simpa [endsLone, capital] using other
    rw [small]
    rfl
  | false => rw [Bool.and_false]

theorem length_tableStep (pair : Char × Char) :
    (tableStep pair).length = (columnStep pair).length + if endsLone pair then 1 else 0 := by
  unfold columnStep tableStep endsLone
  cases isSmall pair.1 <;> cases isCapital pair.2 <;> rfl

theorem length_flatMap_tableStep (pairs : List (Char × Char)) :
    (pairs.flatMap tableStep).length =
      (pairs.flatMap columnStep).length + pairs.countP endsLone := by
  induction pairs with
  | nil => rfl
  | cons pair rest ih =>
    rw [List.flatMap_cons, List.flatMap_cons, List.length_append, List.length_append, ih,
      length_tableStep, List.countP_cons]
    omega

/-! The names of an ASCII name -/

theorem map_toLower_splitHumps (c : Char) (rest : List Char) :
    (splitHumps (c :: rest)).map Char.toLower =
      c.toLower :: (neighbours (c :: rest)).flatMap columnStep := by
  induction rest generalizing c with
  | nil => rfl
  | cons next later ih =>
    have underscore : '_'.toLower = '_' := by decide
    rw [neighbours_cons_cons, List.flatMap_cons, splitHumps_cons_cons]
    unfold columnStep at ih ⊢
    split
    · simp only [List.map_cons, ih, underscore]
      rfl
    · simp only [List.map_cons, ih]
      rfl

theorem splitCapitals_eq_flatMap (c : Char) {rest : List Char}
    (ascii : ∀ c ∈ rest, c.toNat < 128) :
    splitCapitals rest = (neighbours (c :: rest)).flatMap tableStep := by
  induction rest generalizing c with
  | nil => rfl
  | cons next later ih =>
    obtain ⟨here, behind⟩ := List.forall_mem_cons.mp ascii
    rw [neighbours_cons_cons, List.flatMap_cons, ← ih next behind, tableStep]
    cases capital : isCapital next with
    | true =>
      rw [splitCapitals_of_capital capital]
      rfl
    | false =>
      rw [splitCapitals_of_other here capital, toLower_of_not_capital capital]
      rfl

theorem ascii_splitHumps {chars : List Char} (ascii : ∀ c ∈ chars, c.toNat < 128) :
    ∀ c ∈ splitHumps chars, c.toNat < 128 := by
  intro c inside
  rcases mem_splitHumps inside with rfl | own
  · decide
  · exact ascii c own

section Both

variable {name : String} {c : Char} {rest : List Char} (chars : name.toList = c :: rest)
  (ascii : ∀ c ∈ name.toList, c.toNat < 128)

include chars ascii

theorem toList_columnName_of_ascii :
    (columnName name).toList = c.toLower :: (neighbours name.toList).flatMap columnStep := by
  rw [columnName, String.toList_ofList, lowerAfter_of_ascii (ascii_splitHumps ascii), chars,
    map_toLower_splitHumps]

theorem toList_defaultTableName_of_ascii :
    (defaultTableName name).toList = c.toLower :: (neighbours name.toList).flatMap tableStep := by
  rw [chars] at ascii
  obtain ⟨here, later⟩ := List.forall_mem_cons.mp ascii
  rw [toList_defaultTableName chars, lowerAfter_singleton here, chars,
    ← splitCapitals_eq_flatMap c later]
  rfl

theorem length_defaultTableName_of_ascii :
    (defaultTableName name).length =
      (columnName name).length + (neighbours name.toList).countP endsLone := by
  rw [← String.length_toList, ← String.length_toList, toList_columnName_of_ascii chars ascii,
    toList_defaultTableName_of_ascii chars ascii, List.length_cons, List.length_cons,
    length_flatMap_tableStep]
  omega

end Both

/-- The two names of a nonempty ASCII name are the same exactly if each of its capitals but the first
character follows a small letter, and the table name is longer by the capitals that do not. -/
theorem columnName_eq_defaultTableName_iff {name : String} (nonempty : name ≠ "")
    (ascii : ∀ c ∈ name.toList, c.toNat < 128) :
    (columnName name = defaultTableName name ↔
        ∀ before c, (before, c) ∈ neighbours name.toList → isCapital c → isSmall before) ∧
      (defaultTableName name).length = (columnName name).length +
        (neighbours name.toList).countP fun pair => isCapital pair.2 && !isSmall pair.1 := by
  obtain ⟨c, rest, chars⟩ := exists_toList_of_ne_empty nonempty
  have longer := length_defaultTableName_of_ascii chars ascii
  refine ⟨⟨?paired, ?same⟩, longer⟩
  case paired =>
    intro same before c member capital
    have uncounted : (neighbours name.toList).countP endsLone = 0 := by
      rw [same] at longer
      omega
    have paired := List.countP_eq_zero.mp uncounted (before, c) member
    simpa [endsLone, capital] using paired
  case same =>
    intro paired
    rw [← String.toList_inj, toList_columnName_of_ascii chars ascii,
      toList_defaultTableName_of_ascii chars ascii]
    congr 1
    refine List.flatMap_congr fun pair member => columnStep_of_not_lone ?_
    have follows := paired pair.1 pair.2 member
    unfold endsLone
    cases capital : isCapital pair.2 with
    | true => simp [follows capital]
    | false => rfl

/-- A run of capitals stays together in a column name and falls apart in a table name. -/
theorem columnName_eq_defaultTableName_iff_run :
    "URLValue" ≠ "" ∧ (∀ c ∈ "URLValue".toList, c.toNat < 128) ∧
      columnName "URLValue" ≠ defaultTableName "URLValue" ∧
      (defaultTableName "URLValue").length = (columnName "URLValue").length + 3 := by
  have ascii : ∀ c ∈ "URLValue".toList, c.toNat < 128 := by
    have all : "URLValue".toList.all fun c => decide (c.toNat < 128) := by decide
    simpa only [List.all_eq_true, decide_eq_true_eq] using all
  obtain ⟨same, longer⟩ := columnName_eq_defaultTableName_iff (by decide) ascii
  refine ⟨by decide, ascii, ?_, longer⟩
  intro equal
  exact absurd (same.mp equal 'U' 'R' (by decide) (by decide)) (by decide)

end SqlScaffold.Naming
