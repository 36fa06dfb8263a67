import SqlScaffold.Proofs.Text.Lowering

/-!
Column names, position by position. An underscore stands behind every small letter that a capital
follows, and nowhere else is one new: going over a name from left to right, pair by pair, misses no
such place, and lower case does not see the new underscores. A column name is its own column name.
-/

namespace SqlScaffold.Naming

open Text

/-! Letters -/

theorem isSmall_iff {c : Char} : isSmall c ↔ 97 ≤ c.toNat ∧ c.toNat ≤ 122 := by
  simp only [isSmall, Bool.and_eq_true, decide_eq_true_eq]
  exact Iff.rfl

theorem isCapital_iff {c : Char} : isCapital c ↔ 65 ≤ c.toNat ∧ c.toNat ≤ 90 := by
  simp only [isCapital, Bool.and_eq_true, decide_eq_true_eq]
  exact Iff.rfl

theorem ascii_of_capital {c : Char} (capital : isCapital c) : c.toNat < 128 := by
  rw [isCapital_iff] at capital
  omega

theorem not_small_of_capital {c : Char} (capital : isCapital c) : isSmall c = false := by
  rw [isCapital_iff] at capital
  rw [Bool.eq_false_iff, ne_eq, isSmall_iff]
  omega

def letterRanges : Ranges := [(0x41, 0x5A), (0x61, 0x7A)]

theorem contains_letterRanges {c : Char} (letter : isSmall c ∨ isCapital c) :
    letterRanges.contains c = true := by
  rw [isSmall_iff, isCapital_iff] at letter
  rw [Ranges.contains_iff]
  rcases letter with small | capital
  · exact ⟨(0x61, 0x7A), by decide, small⟩
  · exact ⟨(0x41, 0x5A), by decide, capital⟩

theorem meetsCased_of_letter {c : Char} (letter : isSmall c ∨ isCapital c) (rest : List Char) :
    meetsCased (c :: rest) = true := by
  have inside := contains_letterRanges letter
  have met : caseIgnorableRanges.contains c = false :=
    Ranges.contains_eq_false_of_apart (by decide +kernel) inside
  have listed : ∀ range ∈ letterRanges, range ∈ casedRanges := by decide
  have cased : casedRanges.contains c = true := by
    obtain ⟨range, member, within⟩ := (Ranges.contains_iff letterRanges c).mp inside
    exact (Ranges.contains_iff casedRanges c).mpr ⟨range, listed range member, within⟩
  rw [meetsCased_cons, met, cased]
  rfl

theorem ne_sigma_of_letter {c : Char} (letter : isSmall c ∨ isCapital c) : c ≠ 'Σ' := by
  rintro rfl
  exact absurd letter (by decide)

/-! Places -/

def endsHump (chars : List Char) (place : Nat) : Bool :=
  chars[place]?.any isSmall && chars[place + 1]?.any isCapital

def markPieces (marked : Nat → Bool) (pieces : List (List Char)) : List Char :=
  pieces.zipIdx.flatMap fun piece => if marked piece.2 then piece.1 ++ ['_'] else piece.1

@[simp] theorem endsHump_succ (c : Char) (rest : List Char) (place : Nat) :
    endsHump (c :: rest) (place + 1) = endsHump rest place := rfl

theorem endsHump_zero (c next : Char) (rest : List Char) :
    endsHump (c :: next :: rest) 0 = (isSmall c && isCapital next) := rfl

theorem markPieces_cons (marked : Nat → Bool) (piece : List Char) (rest : List (List Char)) :
    markPieces marked (piece :: rest) =
      (if marked 0 then piece ++ ['_'] else piece) ++
        markPieces (fun place => marked (place + 1)) rest := by
  simp [markPieces, List.zipIdx_cons, List.zipIdx_succ, List.flatMap_map]

/-- Without the underscores, marked pieces are the pieces. -/
theorem filter_markPieces (marked : Nat → Bool) (pieces : List (List Char)) :
    (markPieces marked pieces).filter (· != '_') = pieces.flatten.filter (· != '_') := by
  induction pieces generalizing marked with
  | nil => rfl
  | cons piece rest ih =>
    rw [markPieces_cons, List.filter_append, ih, List.flatten_cons, List.filter_append]
    split
    · simp
    · rfl

/-! Pairs -/

def replaceHumps : List Char → List Char
  | first :: second :: rest =>
    if isSmall first && isCapital second then first :: '_' :: second :: replaceHumps rest
    else first :: replaceHumps (second :: rest)
  | chars => chars

theorem splitHumps_cons_cons (c next : Char) (rest : List Char) :
    splitHumps (c :: next :: rest) =
      if isSmall c && isCapital next then c :: '_' :: splitHumps (next :: rest)
      else c :: splitHumps (next :: rest) := rfl

theorem splitHumps_of_not_small {c : Char} (other : isSmall c = false) (rest : List Char) :
    splitHumps (c :: rest) = c :: splitHumps rest := by
  cases rest with
  | nil => rfl
  | cons next later => simp [splitHumps_cons_cons, other]

/-- Going on behind a pair misses none: its second letter is a capital and so starts no pair. -/
theorem splitHumps_eq_replaceHumps (chars : List Char) :
    splitHumps chars = replaceHumps chars := by
  fun_induction replaceHumps chars with
  | case1 first second rest hump ih =>
    have capital := (Bool.and_eq_true_iff.mp hump).2
    rw [splitHumps, if_pos hump, splitHumps_of_not_small (not_small_of_capital capital), ih]
  | case2 first second rest even ih => rw [splitHumps, if_neg even, ih]
  | case3 chars short =>
    rcases chars with _ | ⟨c, _ | ⟨next, later⟩⟩
    · rfl
    · rfl
    · exact absurd rfl (short c next later)

theorem splitHumps_eq_markPieces (chars : List Char) :
    splitHumps chars = markPieces (endsHump chars) (chars.map fun c => [c]) := by
  induction chars with
  | nil => rfl
  | cons c rest ih =>
    cases rest with
    | nil => simp [splitHumps, markPieces, endsHump]
    | cons next later =>
      rw [splitHumps_cons_cons, List.map_cons, markPieces_cons, endsHump_zero]
      simp only [endsHump_succ, ← ih]
      split
      · rfl
      · rfl

/-! Lower case -/

/-- The search for a letter finds the same with and without the new underscores, since each of them
stands behind a letter. -/
theorem meetsCased_splitHumps (chars : List Char) :
    meetsCased (splitHumps chars) = meetsCased chars := by
  induction chars with
  | nil => rfl
  | cons c rest ih =>
    cases rest with
    | nil => rfl
    | cons next later =>
      rw [splitHumps_cons_cons]
      split
      · next hump =>
        have small := (Bool.and_eq_true_iff.mp hump).1
        rw [meetsCased_of_letter (.inl small), meetsCased_of_letter (.inl small)]
      · exact meetsCased_cons_congr c ih

theorem lowerForm_agree {c : Char} {before former after further : List Char}
    (left : meetsCased before = meetsCased former ∨ isCapital c)
    (right : meetsCased after = meetsCased further) :
    lowerForm before c after = lowerForm former c further := by
  rcases left with same | capital
  · exact lowerForm_congr c same right
  · have other := ne_sigma_of_letter (.inr capital)
    rw [lowerForm_of_ne before after other, lowerForm_of_ne former further other]

/-- Lower case does not see the new underscores: each character has the lower form that it has
without them. The induction carries on whether the letters before are seen alike, which is lost only
behind an underscore, where a capital follows. -/
theorem lowerAfter_splitHumps (chars : List Char) {before former : List Char}
    (agree : meetsCased before = meetsCased former ∨ chars.head?.any isCapital) :
    lowerAfter before (splitHumps chars) =
      markPieces (endsHump chars) (lowerForms former chars) := by
  induction chars generalizing before former with
  | nil => rfl
  | cons c rest ih =>
    have here : meetsCased before = meetsCased former ∨ isCapital c := by simpa using agree
    cases rest with
    | nil =>
      rw [splitHumps, lowerAfter_cons, lowerForms_cons, markPieces_cons, lowerForm_agree here rfl]
      simp [endsHump, lowerAfter, lowerForms, markPieces]
    | cons next later =>
      have form := lowerForm_agree here (meetsCased_splitHumps (next :: later))
      rw [splitHumps_cons_cons, lowerForms_cons, markPieces_cons, endsHump_zero]
      simp only [endsHump_succ]
      split
      · next hump =>
        obtain ⟨small, capital⟩ := Bool.and_eq_true_iff.mp hump
        have underscore : lowerForm (c :: before) '_' (splitHumps (next :: later)) = ['_'] :=
          lowerForm_of_ascii (by decide) _ _
        have onward := @ih ('_' :: c :: before) (c :: former) (.inr capital)
        rw [lowerAfter_cons, lowerAfter_cons, underscore, onward,
          lowerForm_of_ne _ _ (ne_sigma_of_letter (.inl small)),
          lowerForm_of_ne _ _ (ne_sigma_of_letter (.inl small)), List.append_assoc]
      · have behind : meetsCased (c :: before) = meetsCased (c :: former) := by
          rcases here with same | capital
          · exact meetsCased_cons_congr c same
          · rw [meetsCased_of_letter (.inr capital), meetsCased_of_letter (.inr capital)]
        rw [lowerAfter_cons, form, ih (.inl behind)]

theorem splitHumps_of_no_capital {chars : List Char} (small : ∀ c ∈ chars, isCapital c = false) :
    splitHumps chars = chars := by
  induction chars with
  | nil => rfl
  | cons c rest ih =>
    obtain ⟨_, later⟩ := List.forall_mem_cons.mp small
    cases rest with
    | nil => rfl
    | cons next more =>
      have other := small next (by simp)
      rw [splitHumps, ih later, other, Bool.and_false]
      rfl

theorem toLower_ne_of_capital {c : Char} (capital : isCapital c) : c.toLower ≠ c := by
  rw [isCapital_iff] at capital
  have upper : c.val ≥ 'A'.val ∧ c.val ≤ 'Z'.val := capital
  have shifted : c.toLower.val = c.val + ('a'.val - 'A'.val) := congrArg Char.val (dif_pos upper)
  have distance : ('a'.val - 'A'.val).toNat = 32 := by decide
  have greatest : c.val.toNat ≤ 90 := capital.2
  intro same
  rw [same] at shifted
  have moved := congrArg UInt32.toNat shifted
  rw [UInt32.toNat_add, distance] at moved
  omega

theorem toLower_of_not_capital {c : Char} (other : isCapital c = false) : c.toLower = c := by
  have outside : ¬(c.val ≥ 'A'.val ∧ c.val ≤ 'Z'.val) := by
    intro upper
    rw [isCapital_iff.mpr upper] at other
    cases other
  exact dif_neg outside

theorem not_capital_of_lowered {c : Char} (lowered : lowerChar c = [c]) : isCapital c = false := by
  rw [Bool.eq_false_iff]
  intro capital
  rw [lowerChar_of_ascii (ascii_of_capital capital)] at lowered
  exact toLower_ne_of_capital capital (List.singleton_inj.mp lowered)

/-! Column names -/

theorem toList_columnName (name : String) :
    (columnName name).toList = lowerAfter [] (splitHumps name.toList) := by
  rw [columnName, String.toList_ofList]

theorem toList_lower (text : String) : (lower text).toList = lowerAfter [] text.toList := by
  rw [lower, String.toList_ofList]

theorem toList_columnName_eq_markPieces (name : String) :
    (columnName name).toList = markPieces (endsHump name.toList) (lowerForms [] name.toList) := by
  rw [toList_columnName, lowerAfter_splitHumps name.toList (.inl rfl)]

/-- The column name is the name with underscores at its humps, in lower form; it is also the lower
form of the name with the underscores put in afterwards, and without any underscores the two have
the same characters. -/
structure SplitsAtHumps (name column : String) : Prop where
  marked : column = lower (String.ofList
    (markPieces (endsHump name.toList) (name.toList.map fun c => [c])))
  lowered : column.toList = markPieces (endsHump name.toList) (lowerForms [] name.toList)
  letters : column.toList.filter (· != '_') = (lower name).toList.filter (· != '_')

theorem splitsAtHumps_columnName (name : String) : SplitsAtHumps name (columnName name) where
  marked := by
    rw [columnName, lower, String.toList_ofList, splitHumps_eq_markPieces]
  lowered := toList_columnName_eq_markPieces name
  letters := by
    rw [toList_columnName_eq_markPieces, filter_markPieces, flatten_lowerForms, toList_lower]

theorem columnName_columnName (name : String) : columnName (columnName name) = columnName name := by
  have lowered : ∀ c ∈ (columnName name).toList, lowerChar c = [c] := by
    intro c inside
    rw [toList_columnName] at inside
    exact lowered_of_mem_lowerAfter inside
  have unsplit := splitHumps_of_no_capital fun c inside =>
    not_capital_of_lowered (lowered c inside)
  rw [columnName, unsplit, lowerAfter_of_lowered lowered, String.ofList_toList]

/-- A column name is that of the pairs replaced from left to right; it is split at exactly the humps
of the name and is its own column name. -/
theorem columnName_splits (name : String) :
    columnName name = lower (String.ofList (replaceHumps name.toList)) ∧
      SplitsAtHumps name (columnName name) ∧
      columnName (columnName name) = columnName name := by
  refine ⟨?_, splitsAtHumps_columnName name, columnName_columnName name⟩
  rw [columnName, lower, String.toList_ofList, splitHumps_eq_replaceHumps]

end SqlScaffold.Naming
