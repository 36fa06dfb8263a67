import SqlScaffold.Naming
import SqlScaffold.Proofs.Text.Blank
import SqlScaffold.Proofs.Text.Lines
import SqlScaffold.Proofs.Text.Literal
import SqlScaffold.Text.Quoted

/-!
Texts of one line. No character that ends a line comes from one that does not, neither by case
mapping nor by escapes, so names that are derived from a text of one line are such texts too.
-/

namespace SqlScaffold

namespace Text

def IsInline (chars : List Char) : Prop := ∀ c ∈ chars, isLineBoundary c = false

instance (chars : List Char) : Decidable (IsInline chars) := List.decidableBAll _ chars

def IsUnbroken (text : String) : Prop := IsInline text.toList

instance (text : String) : Decidable (IsUnbroken text) :=
  inferInstanceAs (Decidable (IsInline text.toList))

@[simp] theorem isInline_nil : IsInline [] := nofun

@[simp] theorem isInline_cons {c : Char} {rest : List Char} :
    IsInline (c :: rest) ↔ isLineBoundary c = false ∧ IsInline rest := List.forall_mem_cons

@[simp] theorem isInline_append {first second : List Char} :
    IsInline (first ++ second) ↔ IsInline first ∧ IsInline second := List.forall_mem_append

@[simp] theorem isUnbroken_ofList {chars : List Char} :
    IsUnbroken (String.ofList chars) ↔ IsInline chars := by
  rw [IsUnbroken, String.toList_ofList]

theorem isUnbroken_literal {chars : List Char}
    (checked : (chars.all fun c => !isLineBoundary c) = true) :
    IsUnbroken (String.ofList chars) := by
  simpa [IsInline] using checked

theorem isUnbroken_append {first second : String} :
    IsUnbroken (first ++ second) ↔ IsUnbroken first ∧ IsUnbroken second := by
  simp [IsUnbroken]

theorem isUnbroken_repeated (count : Nat) : IsUnbroken (repeated count ' ') := by
  rw [repeated, isUnbroken_ofList]
  intro c inside
  rw [List.eq_of_mem_replicate inside]
  decide

theorem IsUnbroken.joinWith {separator : String} {parts : List String}
    (between : IsUnbroken separator) (unbroken : ∀ part ∈ parts, IsUnbroken part) :
    IsUnbroken (joinWith separator parts) := by
  induction parts with
  | nil => exact isInline_nil
  | cons part rest ih =>
    obtain ⟨here, later⟩ := List.forall_mem_cons.mp unbroken
    cases rest with
    | nil => exact here
    | cons next rest =>
      exact isUnbroken_append.mpr ⟨isUnbroken_append.mpr ⟨here, between⟩, ih later⟩

theorem IsUnbroken.newline_not_mem {text : String} (unbroken : IsUnbroken text) :
    '\n' ∉ text.toList := by
  intro inside
  exact absurd (unbroken '\n' inside) (by decide)

theorem isInline_of_mem_linesFrom {chars current : List Char} (inline : IsInline current) :
    ∀ line ∈ linesFrom current chars, IsInline line := by
  have turned : ∀ {chars : List Char}, IsInline chars → IsInline chars.reverse := by
    intro chars inline c inside
    exact inline c (List.mem_reverse.mp inside)
  fun_induction linesFrom current chars with
  | case1 => simp
  | case2 => simpa using turned inline
  | case3 current rest ih => exact List.forall_mem_cons.mpr ⟨turned inline, ih isInline_nil⟩
  | case4 current c rest _ _ ih => exact List.forall_mem_cons.mpr ⟨turned inline, ih isInline_nil⟩
  | case5 current c rest _ plain ih =>
    exact ih (isInline_cons.mpr ⟨by simpa using plain, inline⟩)

theorem unbroken_of_mem_splitLines {text : String} :
    ∀ line ∈ splitLines text, IsUnbroken line := by
  intro line inside
  obtain ⟨chars, member, rfl⟩ := List.mem_map.mp inside
  exact isUnbroken_ofList.mpr (isInline_of_mem_linesFrom isInline_nil chars member)

theorem isBlank_of_isLineBoundary {c : Char} (boundary : isLineBoundary c = true) :
    isBlank c = true := by
  have covered : ∀ range ∈ lineBoundaries, ∃ other ∈ blankRanges,
      other.1 ≤ range.1 ∧ range.2 ≤ other.2 := by decide
  obtain ⟨range, listed, least, greatest⟩ := (Ranges.contains_iff _ _).mp boundary
  obtain ⟨other, also, before, behind⟩ := covered range listed
  exact (Ranges.contains_iff _ _).mpr ⟨other, also, by omega, by omega⟩

theorem allBlank_of_mem_splitLines {text : String} (blank : allBlank text = true) :
    ∀ line ∈ splitLines text, allBlank line = true := by
  intro line inside
  obtain ⟨chars, listed, rfl⟩ := List.mem_map.mp inside
  have each : ∀ c ∈ text.toList, isBlank c = true := by simpa [allBlank] using blank
  simp only [allBlank, String.toList_ofList, List.all_eq_true]
  exact fun c member => each c ((mem_of_mem_linesFrom listed c member).resolve_left List.not_mem_nil)

theorem IsUnbroken.trimEnd {text : String} (unbroken : IsUnbroken text) :
    IsUnbroken (trimEnd text) := by
  refine isUnbroken_ofList.mpr ?_
  intro c inside
  exact unbroken c (mem_of_mem_dropTrailingBlanks c inside)

theorem isInline_escapeLiteral {chars : List Char} (inline : IsInline chars) :
    IsInline (escapeLiteral chars) := by
  have backslash : isLineBoundary '\\' = false := by decide
  induction chars with
  | nil => exact isInline_nil
  | cons c rest ih =>
    obtain ⟨here, later⟩ := isInline_cons.mp inline
    rw [escapeLiteral]
    split <;> simp [backslash, here, ih later]

theorem IsUnbroken.sourceLiteral {text : String} (unbroken : IsUnbroken text) :
    IsUnbroken (sourceLiteral text) := by
  have quote : isLineBoundary '"' = false := by decide
  exact isUnbroken_ofList.mpr (by simpa [quote] using isInline_escapeLiteral unbroken)

theorem isUnbroken_of_sourceLiteral {text : String} (unbroken : IsUnbroken (sourceLiteral text)) :
    IsUnbroken text := by
  rw [Text.sourceLiteral, isUnbroken_ofList] at unbroken
  exact fun c inside => unbroken c (by simp [mem_escapeLiteral inside])

theorem mem_of_splitLastChars {separator : Char} {chars : List Char}
    {parts : List Char × List Char} (split : splitLastChars separator chars = some parts) :
    ∀ c ∈ parts.2, c ∈ chars := by
  induction chars generalizing parts with
  | nil => simp [splitLastChars] at split
  | cons first rest ih =>
    simp only [splitLastChars] at split
    cases found : splitLastChars separator rest with
    | some later =>
      simp only [found, Option.some.injEq] at split
      subst split
      exact fun c inside => List.mem_cons_of_mem first (ih found c inside)
    | none =>
      simp only [found] at split
      split at split
      · cases split
        exact fun c inside => List.mem_cons_of_mem first inside
      · cases split

/-- A number that is no code point stands for the null character. -/
theorem toNat_ofNat_cases (code : Nat) :
    (Char.ofNat code).toNat = code ∨ (Char.ofNat code).toNat = 0 := by
  unfold Char.ofNat
  by_cases valid : code.isValidChar
  · exact .inl (by rw [dif_pos valid]; rfl)
  · exact .inr (by rw [dif_neg valid]; rfl)

section Apart

variable {ranges : Ranges}

theorem contains_mapByRows {rows : List CaseRow} (positive : ∀ range ∈ ranges, 0 < range.1)
    (apart : ∀ row ∈ rows, ∀ range ∈ ranges,
      (row.last : Int) + row.shift < range.1 ∨ (range.2 : Int) < row.first + row.shift) {c : Char}
    (outside : ranges.contains c = false) : ranges.contains (mapByRows rows c) = false := by
  unfold mapByRows
  cases found : rows.find? (·.covers c.toNat) with
  | none => exact outside
  | some row =>
    have inside := apart row (List.mem_of_find?_eq_some found)
    have covered := List.find?_some found
    simp only [CaseRow.covers, Bool.and_eq_true, decide_eq_true_eq] at covered
    dsimp only [CaseRow.apply]
    rw [Bool.eq_false_iff]
    intro within
    obtain ⟨range, listed, least, greatest⟩ := (Ranges.contains_iff ranges _).mp within
    have start := positive range listed
    rcases toNat_ofNat_cases ((c.toNat : Int) + row.shift).toNat with same | null
    · rw [same] at least greatest
      rcases inside range listed with before | behind <;> omega
    · omega

structure ArePassedBy (ranges : Ranges) : Prop where
  positive : ∀ range ∈ ranges, 0 < range.1
  rows : ∀ row ∈ lowerRows, ∀ range ∈ ranges,
    (row.last : Int) + row.shift < range.1 ∨ (range.2 : Int) < row.first + row.shift
  forms : ['i', Char.ofNat 0x307, 'ς', 'σ'].any ranges.contains = false

theorem ArePassedBy.lowerAfter (passed : ArePassedBy ranges) {chars : List Char}
    (outside : ∀ c ∈ chars, ranges.contains c = false) :
    ∀ before, ∀ c ∈ lowerAfter before chars, ranges.contains c = false := by
  have forms := passed.forms
  simp only [List.any_cons, List.any_nil, Bool.or_false, Bool.or_eq_false_iff] at forms
  induction chars with
  | nil => simp [Text.lowerAfter]
  | cons first rest ih =>
    obtain ⟨here, later⟩ := List.forall_mem_cons.mp outside
    intro before
    refine List.forall_mem_append.mpr ⟨?_, ih later (first :: before)⟩
    split
    · split <;> simp [forms]
    · unfold lowerChar
      split
      · simp [forms]
      · simpa using contains_mapByRows passed.positive passed.rows here

end Apart

def KeepInline (rows : List CaseRow) : Prop :=
  ∀ row ∈ rows, ∀ range ∈ lineBoundaries,
    (row.last : Int) + row.shift < range.1 ∨ (range.2 : Int) < row.first + row.shift

theorem lowerRows_keepInline : KeepInline lowerRows := by
  unfold KeepInline
  decide +kernel

theorem upperRows_keepInline : KeepInline upperRows := by
  unfold KeepInline
  decide +kernel

theorem KeepInline.mapByRows {rows : List CaseRow} (keep : KeepInline rows) {c : Char}
    (inline : isLineBoundary c = false) : isLineBoundary (mapByRows rows c) = false :=
  contains_mapByRows (by decide) keep inline

theorem isInline_upperChar {c : Char} (inline : isLineBoundary c = false) :
    IsInline (upperChar c) := by
  have long : ∀ entry ∈ longUpperForms, ∀ code ∈ entry.2,
      isLineBoundary (Char.ofNat code) = false := by
    decide +kernel
  unfold upperChar
  cases found : longUpperForms.lookup c.toNat with
  | none => simpa using upperRows_keepInline.mapByRows inline
  | some codes =>
    obtain ⟨before, after, split, _⟩ := List.lookup_eq_some_iff.mp found
    exact List.forall_mem_map.mpr (long (c.toNat, codes) (by simp [split]))

theorem lineBoundaries_arePassedBy : ArePassedBy lineBoundaries :=
  ⟨by decide, lowerRows_keepInline, by decide⟩

theorem isInline_lowerAfter {chars : List Char} (inline : IsInline chars) :
    ∀ before, IsInline (lowerAfter before chars) := lineBoundaries_arePassedBy.lowerAfter inline

end Text

namespace Naming

open Text

theorem mem_splitHumps {chars : List Char} {c : Char} (inside : c ∈ splitHumps chars) :
    c = '_' ∨ c ∈ chars := by
  induction chars with
  | nil => cases inside
  | cons first rest ih =>
    cases rest with
    | nil => exact .inr (by simpa [splitHumps] using inside)
    | cons next rest =>
      rw [splitHumps] at inside
      split at inside <;> grind

theorem isInline_splitHumps {chars : List Char} (inline : IsInline chars) :
    IsInline (splitHumps chars) := by
  intro c inside
  rcases mem_splitHumps inside with rfl | own
  · decide
  · exact inline c own

theorem isInline_splitCapitals {chars : List Char} (inline : IsInline chars) :
    IsInline (splitCapitals chars) := by
  have underscore : isLineBoundary '_' = false := by decide
  intro c inside
  obtain ⟨origin, member, image⟩ := List.mem_flatMap.mp inside
  have itself : IsInline [origin] := by simpa using inline origin member
  split at image
  · exact isInline_cons.mpr ⟨underscore, isInline_lowerAfter itself []⟩ c image
  · exact itself c image

section Derived

variable {name : String} (unbroken : IsUnbroken name)

include unbroken

theorem isUnbroken_columnName : IsUnbroken (columnName name) :=
  isUnbroken_ofList.mpr (isInline_lowerAfter (isInline_splitHumps unbroken) [])

theorem isUnbroken_instanceName : IsUnbroken (instanceName name) := by
  unfold instanceName
  unfold IsUnbroken at unbroken
  split
  · exact isInline_nil
  · next first rest chars =>
    obtain ⟨here, later⟩ := isInline_cons.mp (chars ▸ unbroken)
    have itself : IsInline [first] := by simpa using here
    exact isUnbroken_ofList.mpr (isInline_append.mpr ⟨isInline_lowerAfter itself [], later⟩)

theorem isUnbroken_accessorName : IsUnbroken (accessorName name) := by
  unfold accessorName
  unfold IsUnbroken at unbroken
  split
  · exact isInline_nil
  · next first rest chars =>
    obtain ⟨here, later⟩ := isInline_cons.mp (chars ▸ unbroken)
    exact isUnbroken_ofList.mpr (isInline_append.mpr ⟨isInline_upperChar here, later⟩)

theorem isUnbroken_defaultTableName : IsUnbroken (defaultTableName name) := by
  unfold defaultTableName
  unfold IsUnbroken at unbroken
  split
  · exact isInline_nil
  · next first rest chars =>
    obtain ⟨here, later⟩ := isInline_cons.mp (chars ▸ unbroken)
    have itself : IsInline [first] := by simpa using here
    exact isUnbroken_ofList.mpr (isInline_append.mpr
      ⟨isInline_lowerAfter itself [], isInline_splitCapitals later⟩)

end Derived

end Naming

end SqlScaffold
