import Mathlib.Data.List.Chain
import SqlScaffold.Proofs.Naming.Humps

/-!
Default table names. From a name without underscores comes one that has none at its ends and no two
side by side, whatever the lower forms of its characters are. A name of ASCII letters and digits that
starts with a capital can be read back from its table name, so no two such names share one.
-/

namespace SqlScaffold.Naming

open Text

/-! Underscores -/

structure IsTied (chars : List Char) : Prop where
  ends : chars.getLast? ≠ some '_'
  apart : chars.IsChain fun first second => first ≠ '_' ∨ second ≠ '_'

structure IsClean (chars : List Char) : Prop extends IsTied chars where
  starts : chars.head? ≠ some '_'

theorem IsTied.append {first second : List Char} (earlier : IsTied first)
    (later : IsTied second) : IsTied (first ++ second) where
  ends := by
    rw [List.getLast?_append]
    cases last : second.getLast? with
    | none => exact earlier.ends
    | some c =>
      rw [Option.some_or, ← last]
      exact later.ends
  apart := by
    refine List.isChain_append.mpr ⟨earlier.apart, later.apart, ?_⟩
    rintro c last next _
    refine .inl ?_
    rintro rfl
    exact earlier.ends last

theorem tied_of_not_mem {chars : List Char} (absent : '_' ∉ chars) : IsTied chars where
  ends := fun last => absent (List.mem_of_getLast? last)
  apart := by
    refine List.isChain_iff_forall_rel_of_append_cons_cons.mpr ?_
    rintro first second above below rfl
    refine .inl ?_
    rintro rfl
    exact absent (by simp)

theorem tied_cons_underscore {c : Char} {rest : List Char} (absent : '_' ∉ c :: rest) :
    IsTied ('_' :: c :: rest) where
  ends := by
    rw [List.getLast?_cons_cons]
    exact (tied_of_not_mem absent).ends
  apart := by
    refine List.isChain_cons_cons.mpr ⟨.inr ?_, (tied_of_not_mem absent).apart⟩
    rintro rfl
    exact absent List.mem_cons_self

theorem underscore_isPassedBy : ArePassedBy (rangeOf '_') :=
  ⟨by decide, by decide +kernel, by decide⟩

theorem exists_lowerAfter_singleton {c : Char} (other : c ≠ '_') :
    ∃ first rest, lowerAfter [] [c] = first :: rest ∧ '_' ∉ first :: rest := by
  have absent : '_' ∉ lowerAfter [] [c] :=
    not_mem_lowerAfter underscore_isPassedBy (by simpa using other.symm) []
  have filled : lowerAfter [] [c] ≠ [] := by
    rw [lowerAfter_cons]
    exact List.append_ne_nil_of_left_ne_nil (lowerForm_ne_nil [] c []) _
  obtain ⟨first, rest, form⟩ := List.exists_cons_of_ne_nil filled
  exact ⟨first, rest, form, form ▸ absent⟩

/-- The step: what one character adds to a table name. -/
theorem tied_splitCapitals {chars : List Char} (plain : '_' ∉ chars) :
    IsTied (splitCapitals chars) := by
  induction chars with
  | nil => exact tied_of_not_mem (by simp [splitCapitals])
  | cons c rest ih =>
    rw [List.mem_cons, not_or] at plain
    obtain ⟨other, later⟩ := plain
    have form : splitCapitals (c :: rest) =
        (if isUpper c then '_' :: lowerAfter [] [c] else [c]) ++ splitCapitals rest := rfl
    rw [form]
    refine IsTied.append ?_ (ih later)
    split
    · obtain ⟨first, others, lowered, absent⟩ := exists_lowerAfter_singleton (Ne.symm other)
      rw [lowered]
      exact tied_cons_underscore absent
    · exact tied_of_not_mem (by simpa using other)

theorem toList_defaultTableName {name : String} {c : Char} {rest : List Char}
    (chars : name.toList = c :: rest) :
    (defaultTableName name).toList = lowerAfter [] [c] ++ splitCapitals rest := by
  simp only [defaultTableName, chars, String.toList_ofList]

theorem exists_toList_of_ne_empty {name : String} (nonempty : name ≠ "") :
    ∃ c rest, name.toList = c :: rest :=
  List.exists_cons_of_ne_nil (mt String.toList_eq_nil_iff.mp nonempty)

theorem clean_defaultTableName {name : String} (nonempty : name ≠ "")
    (plain : '_' ∉ name.toList) : IsClean (defaultTableName name).toList := by
  obtain ⟨c, rest, chars⟩ := exists_toList_of_ne_empty nonempty
  rw [chars, List.mem_cons, not_or] at plain
  obtain ⟨other, later⟩ := plain
  obtain ⟨first, others, lowered, absent⟩ := exists_lowerAfter_singleton (Ne.symm other)
  rw [toList_defaultTableName chars, lowered]
  refine ⟨(tied_of_not_mem absent).append (tied_splitCapitals later), ?_⟩
  rw [List.cons_append, List.head?_cons]
  rintro same
  exact absent (by simp [Option.some.inj same])

/-! Reading back -/

structure IsEntityName (name : String) : Prop where
  capital : name.toList.head?.any isCapital
  alphanumeric : ∀ c ∈ name.toList, c.isAlphanum

theorem isUpper_of_ascii {c : Char} (ascii : c.toNat < 128) : isUpper c = isCapital c := by
  have inside : Ranges.contains [(0, 127)] c = true := by
    rw [Ranges.contains_iff]
    exact ⟨(0, 127), List.mem_cons_self, Nat.zero_le _, Nat.le_of_lt_succ ascii⟩
  have title : titleCaseRanges.contains c = false :=
    Ranges.contains_eq_false_of_apart (by decide) inside
  have fixed : fixedUpperRanges.contains c = false :=
    Ranges.contains_eq_false_of_apart (by decide) inside
  rw [isUpper, lowerChar_of_ascii ascii, title, fixed]
  cases capital : isCapital c with
  | true => simp [toLower_ne_of_capital capital]
  | false => simp [toLower_of_not_capital capital]

theorem lowerAfter_singleton {c : Char} (ascii : c.toNat < 128) :
    lowerAfter [] [c] = [c.toLower] :=
  lowerAfter_of_ascii (by simpa using ascii) []

theorem splitCapitals_of_capital {c : Char} (capital : isCapital c) (rest : List Char) :
    splitCapitals (c :: rest) = '_' :: c.toLower :: splitCapitals rest := by
  have ascii := ascii_of_capital capital
  simp [splitCapitals, isUpper_of_ascii ascii, capital, lowerAfter_singleton ascii]

theorem splitCapitals_of_other {c : Char} (ascii : c.toNat < 128) (other : isCapital c = false)
    (rest : List Char) : splitCapitals (c :: rest) = c :: splitCapitals rest := by
  simp [splitCapitals, isUpper_of_ascii ascii, other]

def joinCapitals : List Char → List Char
  | '_' :: c :: rest => c.toUpper :: joinCapitals rest
  | c :: rest => c :: joinCapitals rest
  | [] => []

theorem joinCapitals_of_ne {c : Char} (other : c ≠ '_') (rest : List Char) :
    joinCapitals (c :: rest) = c :: joinCapitals rest := by
  rw [joinCapitals]
  intro next later same
  exact absurd same other

theorem toUpper_toLower_of_capital {c : Char} (capital : isCapital c) :
    c.toLower.toUpper = c := by
  have all : ∀ code : Fin 128, isCapital (Char.ofNat code) →
      (Char.ofNat code).toLower.toUpper = Char.ofNat code := by
    decide +kernel
  exact forall_ascii (p := fun c => isCapital c → c.toLower.toUpper = c) all
    (ascii_of_capital capital) capital

theorem ascii_of_isAlphanum {c : Char} (alphanumeric : c.isAlphanum) :
    c.toNat < 128 ∧ c ≠ '_' := by
  have place : c = '_' ↔ c.toNat = 95 := Char.toNat_inj.symm
  unfold Char.isAlphanum Char.isAlpha Char.isUpper Char.isLower Char.isDigit at alphanumeric
  simp only [Bool.or_eq_true, Bool.and_eq_true, decide_eq_true_eq, ge_iff_le,
    UInt32.le_iff_toNat_le] at alphanumeric
  rw [ne_eq, place]
  change ((65 ≤ c.toNat ∧ c.toNat ≤ 90) ∨ 97 ≤ c.toNat ∧ c.toNat ≤ 122) ∨
    48 ≤ c.toNat ∧ c.toNat ≤ 57 at alphanumeric
  omega

theorem joinCapitals_splitCapitals {chars : List Char} (alphanumeric : ∀ c ∈ chars, c.isAlphanum) :
    joinCapitals (splitCapitals chars) = chars := by
  induction chars with
  | nil => rfl
  | cons c rest ih =>
    obtain ⟨here, later⟩ := List.forall_mem_cons.mp alphanumeric
    obtain ⟨ascii, other⟩ := ascii_of_isAlphanum here
    cases capital : isCapital c with
    | true =>
      rw [splitCapitals_of_capital capital, joinCapitals, toUpper_toLower_of_capital capital,
        ih later]
    | false => rw [splitCapitals_of_other ascii capital, joinCapitals_of_ne other, ih later]

def entityName (table : String) : String :=
  match table.toList with
  | [] => ""
  | c :: rest => String.ofList (c.toUpper :: joinCapitals rest)

theorem entityName_defaultTableName {name : String} (entity : IsEntityName name) :
    entityName (defaultTableName name) = name := by
  obtain ⟨capital, alphanumeric⟩ := entity
  cases chars : name.toList with
  | nil => simp [chars] at capital
  | cons c rest =>
    rw [chars] at capital alphanumeric
    obtain ⟨here, later⟩ := List.forall_mem_cons.mp alphanumeric
    have first : isCapital c := by simpa using capital
    have table := toList_defaultTableName chars
    rw [lowerAfter_singleton (ascii_of_isAlphanum here).1] at table
    simp only [entityName, table, List.singleton_append, toUpper_toLower_of_capital first,
      joinCapitals_splitCapitals later]
    rw [← chars, String.ofList_toList]

/-- Default table names have no stray underscores, and different entity names have different ones. -/
theorem defaultTableName_isCleanAndDistinct :
    (∀ name : String, name ≠ "" → '_' ∉ name.toList → IsClean (defaultTableName name).toList) ∧
      ∀ first second : String, IsEntityName first → IsEntityName second →
        defaultTableName first = defaultTableName second → first = second := by
  refine ⟨fun name nonempty plain => clean_defaultTableName nonempty plain, ?_⟩
  intro first second entity other same
  rw [← entityName_defaultTableName entity, same, entityName_defaultTableName other]

/-- The dotted capital has a lower form of two characters. -/
theorem defaultTableName_isCleanAndDistinct_dotted :
    IsClean (defaultTableName "DerİΣΑ").toList ∧ IsEntityName "URL2Value" ∧
      ∀ other : String, IsEntityName other →
        defaultTableName "URL2Value" = defaultTableName other → "URL2Value" = other := by
  have entity : IsEntityName "URL2Value" := ⟨by decide, List.all_eq_true.mp (by decide)⟩
  exact ⟨defaultTableName_isCleanAndDistinct.1 _ (by decide) (by decide), entity,
    fun other named same => defaultTableName_isCleanAndDistinct.2 _ _ entity named same⟩

end SqlScaffold.Naming
