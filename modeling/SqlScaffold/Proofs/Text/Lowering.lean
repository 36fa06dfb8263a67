import SqlScaffold.Proofs.Text.Unbroken

/-!
Lower forms, character by character. Each character of a text has a lower form in its place; only
that of a capital sigma depends on the neighbours, and of these only on whether the nearest ones
are letters. What is in lower form already stays as it is, and among the first 128 characters
nothing but the capitals A to Z changes.
-/

namespace SqlScaffold.Text

def lowerForm (before : List Char) (c : Char) (after : List Char) : List Char :=
  if c = 'Σ' then [if endsWord before after then 'ς' else 'σ'] else lowerChar c

def lowerForms (before : List Char) : List Char → List (List Char)
  | [] => []
  | c :: rest => lowerForm before c rest :: lowerForms (c :: before) rest

theorem lowerAfter_cons (before : List Char) (c : Char) (rest : List Char) :
    lowerAfter before (c :: rest) = lowerForm before c rest ++ lowerAfter (c :: before) rest := rfl

theorem lowerForms_cons (before : List Char) (c : Char) (rest : List Char) :
    lowerForms before (c :: rest) = lowerForm before c rest :: lowerForms (c :: before) rest := rfl

theorem flatten_lowerForms (before chars : List Char) :
    (lowerForms before chars).flatten = lowerAfter before chars := by
  induction chars generalizing before with
  | nil => rfl
  | cons c rest ih => rw [lowerForms_cons, List.flatten_cons, ih, lowerAfter_cons]

theorem lowerForm_of_ne {c : Char} (before after : List Char) (other : c ≠ 'Σ') :
    lowerForm before c after = lowerChar c := if_neg other

theorem lowerChar_ne_nil (c : Char) : lowerChar c ≠ [] := by
  unfold lowerChar
  split <;> simp

theorem lowerForm_ne_nil (before : List Char) (c : Char) (after : List Char) :
    lowerForm before c after ≠ [] := by
  unfold lowerForm
  split
  · simp
  · exact lowerChar_ne_nil c

/-! Neighbours -/

theorem meetsCased_cons (c : Char) (rest : List Char) :
    meetsCased (c :: rest) =
      if caseIgnorableRanges.contains c then meetsCased rest else casedRanges.contains c := by
  unfold meetsCased
  by_cases ignored : caseIgnorableRanges.contains c = true
  · simp [ignored]
  · simp [ignored]

theorem meetsCased_cons_congr {first second : List Char} (c : Char)
    (agree : meetsCased first = meetsCased second) :
    meetsCased (c :: first) = meetsCased (c :: second) := by
  rw [meetsCased_cons, meetsCased_cons, agree]

/-- A lower form depends on the neighbours only by whether they are letters. -/
theorem lowerForm_congr {before former after further : List Char} (c : Char)
    (left : meetsCased before = meetsCased former)
    (right : meetsCased after = meetsCased further) :
    lowerForm before c after = lowerForm former c further := by
  rw [lowerForm, lowerForm, endsWord, endsWord, left, right]

/-! Lower forms of lower forms -/

def CaseRow.codes (row : CaseRow) : List Nat :=
  (List.range ((row.last - row.first) / row.step + 1)).map fun index =>
    row.first + index * row.step

theorem CaseRow.mem_codes {row : CaseRow} {code : Nat} (covered : row.covers code) :
    code ∈ row.codes := by
  simp only [covers, Bool.and_eq_true, decide_eq_true_eq, beq_iff_eq] at covered
  obtain ⟨⟨least, greatest⟩, stepped⟩ := covered
  have steps := Nat.div_mul_cancel (Nat.dvd_of_mod_eq_zero stepped)
  refine List.mem_map.mpr ⟨(code - row.first) / row.step, List.mem_range.mpr ?_, by omega⟩
  exact Nat.lt_succ_of_le (Nat.div_le_div_right (Nat.sub_le_sub_right greatest row.first))

def maskOf (codes : List Nat) : Nat := codes.foldr (fun code mask => 1 <<< code ||| mask) 0

theorem testBit_maskOf {codes : List Nat} {code : Nat} :
    (maskOf codes).testBit code ↔ code ∈ codes := by
  induction codes with
  | nil => simp [maskOf]
  | cons first rest ih =>
    have split : maskOf (first :: rest) = 1 <<< first ||| maskOf rest := rfl
    rw [split, Nat.testBit_or, Bool.or_eq_true, ih, Nat.one_shiftLeft, Nat.testBit_two_pow,
      decide_eq_true_eq, List.mem_cons, eq_comm]

def rowsMask (rows : List CaseRow) : Nat := rows.foldr (fun row mask => maskOf row.codes ||| mask) 0

theorem testBit_rowsMask {rows : List CaseRow} {row : CaseRow} {code : Nat} (listed : row ∈ rows)
    (covered : row.covers code) : (rowsMask rows).testBit code := by
  induction rows with
  | nil => cases listed
  | cons first rest ih =>
    have split : rowsMask (first :: rest) = maskOf first.codes ||| rowsMask rest := rfl
    rw [split, Nat.testBit_or, Bool.or_eq_true]
    rcases List.mem_cons.mp listed with rfl | later
    · exact .inl (testBit_maskOf.mpr (CaseRow.mem_codes covered))
    · exact .inr (ih later)

theorem lowerRows_leaveMask :
    (lowerRows.all fun row => row.codes.all fun code =>
      !(rowsMask lowerRows).testBit ((code : Int) + row.shift).toNat) = true := by
  decide +kernel

theorem lowerRows_eq_cons : lowerRows = ⟨0x41, 0x5A, 1, 32⟩ :: lowerRows.tail := rfl

theorem lowerRows_tail : ∀ row ∈ lowerRows.tail, 128 ≤ row.first := by
  decide +kernel

theorem lowerRows_positive {row : CaseRow} (listed : row ∈ lowerRows) : 0 < row.first := by
  rw [lowerRows_eq_cons] at listed
  rcases List.mem_cons.mp listed with rfl | later
  · decide
  · exact Nat.lt_of_lt_of_le (by decide) (lowerRows_tail row later)

theorem find?_covers_eq_none_iff {code : Nat} :
    lowerRows.find? (·.covers code) = none ↔ ∀ row ∈ lowerRows, row.covers code = false := by
  simp

/-- Lower form maps no character to one that it would map further. -/
theorem find?_covers_apply {row : CaseRow} {code : Nat} (listed : row ∈ lowerRows)
    (covered : row.covers code) :
    lowerRows.find? (·.covers (row.apply code).toNat) = none := by
  refine find?_covers_eq_none_iff.mpr fun other member => ?_
  have all := List.all_eq_true.mp lowerRows_leaveMask row listed
  have left := List.all_eq_true.mp all code (CaseRow.mem_codes covered)
  unfold CaseRow.apply
  rcases toNat_ofNat_cases ((code : Int) + row.shift).toNat with same | null
  · rw [same, Bool.eq_false_iff]
    intro again
    rw [testBit_rowsMask member again] at left
    cases left
  · have positive := lowerRows_positive member
    rw [null]
    simp [CaseRow.covers, Nat.ne_of_gt positive]

theorem mapByRows_mapByRows (c : Char) :
    mapByRows lowerRows (mapByRows lowerRows c) = mapByRows lowerRows c := by
  cases found : lowerRows.find? (·.covers c.toNat) with
  | none =>
    have fixed : mapByRows lowerRows c = c := by simp only [mapByRows, found]
    rw [fixed, fixed]
  | some row =>
    have listed := List.mem_of_find?_eq_some found
    have covered := List.find?_some found
    have image : mapByRows lowerRows c = row.apply c.toNat := by simp only [mapByRows, found]
    rw [image, mapByRows, find?_covers_apply listed covered]

def rangeOf (mark : Char) : Ranges := [(mark.toNat, mark.toNat)]

theorem contains_rangeOf_eq_false_iff {mark c : Char} :
    (rangeOf mark).contains c = false ↔ c ≠ mark := by
  have same : c = mark ↔ c.toNat = mark.toNat := Char.toNat_inj.symm
  rw [Bool.eq_false_iff, ne_eq, Ranges.contains_iff, ne_eq, same]
  simp only [rangeOf, List.mem_singleton, exists_eq_left]
  omega

/-- The forms that come from no row have no other lower form; a capital sigma has one. -/
theorem lowerChar_special : lowerChar 'i' = ['i'] ∧
    lowerChar (Char.ofNat 0x307) = [Char.ofNat 0x307] ∧ lowerChar 'ς' = ['ς'] ∧
    lowerChar 'σ' = ['σ'] ∧ lowerChar 'Σ' ≠ ['Σ'] := by
  decide +kernel

/-- Lower case gives a character for which there is no other lower form. -/
theorem lowerChar_of_mem {c image : Char} (inside : image ∈ lowerChar c) :
    lowerChar image = [image] := by
  have apart : ∀ row ∈ lowerRows, ∀ range ∈ rangeOf 'İ',
      (row.last : Int) + row.shift < range.1 ∨ (range.2 : Int) < row.first + row.shift := by
    decide +kernel
  by_cases dotted : c = 'İ'
  · subst dotted
    have forms : image = 'i' ∨ image = Char.ofNat 0x307 := by simpa [lowerChar] using inside
    rcases forms with rfl | rfl
    · exact lowerChar_special.1
    · exact lowerChar_special.2.1
  · rw [lowerChar, if_neg dotted, List.mem_singleton] at inside
    have outside := contains_mapByRows (by decide) apart
      (contains_rangeOf_eq_false_iff.mpr dotted)
    rw [inside, lowerChar, if_neg (contains_rangeOf_eq_false_iff.mp outside), mapByRows_mapByRows]

theorem ne_sigma_of_lowered {c : Char} (lowered : lowerChar c = [c]) : c ≠ 'Σ' := by
  rintro rfl
  exact lowerChar_special.2.2.2.2 lowered

theorem lowered_of_mem_lowerForm {before after : List Char} {c image : Char}
    (inside : image ∈ lowerForm before c after) : lowerChar image = [image] := by
  unfold lowerForm at inside
  split at inside
  · rw [List.mem_singleton] at inside
    subst inside
    split
    · exact lowerChar_special.2.2.1
    · exact lowerChar_special.2.2.2.1
  · exact lowerChar_of_mem inside

theorem lowered_of_mem_lowerAfter {before chars : List Char} {image : Char}
    (inside : image ∈ lowerAfter before chars) : lowerChar image = [image] := by
  induction chars generalizing before with
  | nil => cases inside
  | cons c rest ih =>
    rw [lowerAfter_cons, List.mem_append] at inside
    rcases inside with here | later
    · exact lowered_of_mem_lowerForm here
    · exact ih later

theorem lowerAfter_of_lowered {chars : List Char} (lowered : ∀ c ∈ chars, lowerChar c = [c])
    (before : List Char) : lowerAfter before chars = chars := by
  induction chars generalizing before with
  | nil => rfl
  | cons c rest ih =>
    obtain ⟨here, later⟩ := List.forall_mem_cons.mp lowered
    rw [lowerAfter_cons, lowerForm_of_ne before rest (ne_sigma_of_lowered here), here, ih later]
    rfl

/-- A character to which none is mapped and that is no special form stays out of a lower form. -/
theorem not_mem_lowerAfter {mark : Char} (passed : ArePassedBy (rangeOf mark)) {chars : List Char}
    (absent : mark ∉ chars) (before : List Char) : mark ∉ lowerAfter before chars := by
  have outside : ∀ c ∈ chars, (rangeOf mark).contains c = false := by
    intro c inside
    refine contains_rangeOf_eq_false_iff.mpr ?_
    rintro rfl
    exact absent inside
  intro inside
  exact contains_rangeOf_eq_false_iff.mp (passed.lowerAfter outside before mark inside) rfl

/-! The first 128 characters -/

theorem forall_ascii {p : Char → Prop} (all : ∀ code : Fin 128, p (Char.ofNat code)) {c : Char}
    (ascii : c.toNat < 128) : p c := by
  have here := all ⟨c.toNat, ascii⟩
  rwa [Char.ofNat_toNat] at here

theorem mapByRows_of_ascii {c : Char} (ascii : c.toNat < 128) :
    mapByRows lowerRows c = c.toLower := by
  have missed : lowerRows.tail.find? (·.covers c.toNat) = none := by
    refine List.find?_eq_none.mpr fun row listed covered => ?_
    have first := lowerRows_tail row listed
    simp only [CaseRow.covers, Bool.and_eq_true, decide_eq_true_eq] at covered
    omega
  have all : ∀ code : Fin 128,
      (if CaseRow.covers ⟨0x41, 0x5A, 1, 32⟩ (Char.ofNat code).toNat then
        CaseRow.apply ⟨0x41, 0x5A, 1, 32⟩ (Char.ofNat code).toNat
      else Char.ofNat code) = (Char.ofNat code).toLower := by
    decide +kernel
  have lowered := forall_ascii (p := fun c =>
    (if CaseRow.covers ⟨0x41, 0x5A, 1, 32⟩ c.toNat then CaseRow.apply ⟨0x41, 0x5A, 1, 32⟩ c.toNat
      else c) = c.toLower) all ascii
  rw [mapByRows, lowerRows_eq_cons, List.find?_cons, missed]
  by_cases covered : CaseRow.covers ⟨0x41, 0x5A, 1, 32⟩ c.toNat = true
  · rw [if_pos covered] at lowered
    simpa only [covered] using lowered
  · rw [if_neg covered] at lowered
    simpa only [Bool.eq_false_iff.mpr covered] using lowered

theorem lowerChar_of_ascii {c : Char} (ascii : c.toNat < 128) : lowerChar c = [c.toLower] := by
  have other : c ≠ 'İ' := by
    rintro rfl
    exact absurd ascii (by decide)
  rw [lowerChar, if_neg other, mapByRows_of_ascii ascii]

theorem ne_sigma_of_ascii {c : Char} (ascii : c.toNat < 128) : c ≠ 'Σ' := by
  rintro rfl
  exact absurd ascii (by decide)

theorem lowerForm_of_ascii {c : Char} (ascii : c.toNat < 128) (before after : List Char) :
    lowerForm before c after = [c.toLower] := by
  rw [lowerForm_of_ne before after (ne_sigma_of_ascii ascii), lowerChar_of_ascii ascii]

theorem lowerAfter_of_ascii {chars : List Char} (ascii : ∀ c ∈ chars, c.toNat < 128)
    (before : List Char) : lowerAfter before chars = chars.map Char.toLower := by
  induction chars generalizing before with
  | nil => rfl
  | cons c rest ih =>
    obtain ⟨here, later⟩ := List.forall_mem_cons.mp ascii
    rw [lowerAfter_cons, lowerForm_of_ascii here, ih later]
    rfl

end SqlScaffold.Text
