import SqlScaffold.Json.Reader
import SqlScaffold.Proofs.Outcome

/-!
How a document can go beyond a limit of its reader: only by a long run of digits, or by many opening
brackets.
-/

namespace SqlScaffold.Json

open Number Text

def isOpening (c : Char) : Bool := c = '[' || c = '{'

/-- Characters with a run of digits that is longer than numbers may be, or with as many opening
brackets as it takes to nest beyond the limit from a depth on. -/
def Strains (depth : Nat) (chars : List Char) : Prop :=
  nestingLimit < depth + chars.countP isOpening ∨
    ∃ run, run <:+: chars ∧ (∀ c ∈ run, c.isDigit = true) ∧ digitLimit < run.length

theorem Strains.of_suffix {depth : Nat} {rest chars : List Char} (strains : Strains depth rest)
    (ends : rest <:+ chars) : Strains depth chars := by
  rcases strains with deep | ⟨run, inside, digits, long⟩
  · have fewer : rest.countP isOpening ≤ chars.countP isOpening := ends.sublist.countP_le
    exact .inl (by omega)
  · exact .inr ⟨run, inside.trans ends.isInfix, digits, long⟩

theorem Strains.of_opened {depth : Nat} {bracket : Char} {rest : List Char}
    (strains : Strains (depth + 1) rest) (opening : isOpening bracket = true) :
    Strains depth (bracket :: rest) := by
  rcases strains with deep | ⟨run, inside, digits, long⟩
  · left
    rw [List.countP_cons_of_pos opening]
    omega
  · exact .inr ⟨run, inside.trans (List.suffix_cons _ _).isInfix, digits, long⟩

def EndsWithin {α : Type} (depth : Nat) (chars : List Char) : Except Fault (Reading α) → Prop
  | .ok (_, rest) => rest <:+ chars
  | .error (.leaves _ _) => True
  | .error (.exceeds _) => Strains depth chars

section Steps

variable {α β : Type} {depth : Nat} {chars rest : List Char} {standIn : Char}

theorem endsWithin_failAt (problem : Problem) :
    EndsWithin depth chars (failAt problem rest : Except Fault (Reading α)) := trivial

theorem EndsWithin.of_suffix {reading : Except Fault (Reading α)}
    (within : EndsWithin depth rest reading) (ends : rest <:+ chars) :
    EndsWithin depth chars reading := by
  match reading with
  | .ok (_, after) => exact List.IsSuffix.trans within ends
  | .error (.leaves _ _) => trivial
  | .error (.exceeds _) => exact Strains.of_suffix within ends

theorem EndsWithin.of_opened {bracket : Char} {reading : Except Fault (Reading α)}
    (within : EndsWithin (depth + 1) rest reading) (opening : isOpening bracket = true) :
    EndsWithin depth (bracket :: rest) reading := by
  match reading with
  | .ok (_, after) => exact List.IsSuffix.trans within (List.suffix_cons _ _)
  | .error (.leaves _ _) => trivial
  | .error (.exceeds _) => exact Strains.of_opened within opening

theorem EndsWithin.bind {first : Except Fault (Reading α)}
    {next : Reading α → Except Fault (Reading β)} (within : EndsWithin depth chars first)
    (further : ∀ value rest, rest <:+ chars → EndsWithin depth rest (next (value, rest))) :
    EndsWithin depth chars (first >>= next) := by
  match first with
  | .ok (value, rest) => exact (further value rest within).of_suffix within
  | .error (.leaves _ _) => trivial
  | .error (.exceeds _) => exact within

theorem skipGap_suffix (chars : List Char) : skipGap chars <:+ chars := List.dropWhile_suffix _

theorem suffix_of_skipGap {c : Char} (skipped : skipGap chars = c :: rest) : rest <:+ chars :=
  ((List.suffix_cons c rest).trans (skipped ▸ List.suffix_refl _)).trans (skipGap_suffix chars)

theorem fourHex?_suffix {value : Nat} (read : fourHex? chars = some (value, rest)) :
    rest <:+ chars := by
  unfold fourHex? at read
  split at read
  · simp only [Option.bind_eq_bind, Option.bind_eq_some_iff, Option.some.injEq,
      Prod.mk.injEq] at read
    obtain ⟨_, _, _, _, _, _, _, _, _, rfl⟩ := read
    exact ⟨[_, _, _, _], rfl⟩
  · cases read

theorem endsWithin_readCode (chars : List Char) : EndsWithin depth chars (readCode standIn chars) := by
  unfold readCode
  split
  · exact endsWithin_failAt _
  · split
    · exact endsWithin_failAt _
    · next high rest found =>
      have ends : rest <:+ chars := (fourHex?_suffix found).trans (List.tail_suffix chars)
      split
      · next more =>
        split
        · split
          · exact endsWithin_failAt _
          · next low after paired =>
            have behind : after <:+ chars :=
              ((fourHex?_suffix paired).trans ⟨['\\', 'u'], rfl⟩).trans ends
            split
            · exact behind
            · exact ends
        · exact ends
      · exact ends

theorem endsWithin_readText (opening : List Char) (fuel : Nat) (chars : List Char) :
    EndsWithin depth chars (readText standIn opening fuel chars) := by
  have push (c : Char) {text : Except Fault (Reading (List Char))} {chars : List Char}
      (within : EndsWithin depth chars text) :
      EndsWithin depth chars (text >>= fun read => .ok (c :: read.1, read.2)) :=
    within.bind fun _ rest _ => List.suffix_refl rest
  induction fuel generalizing chars with
  | zero => exact endsWithin_failAt _
  | succ fuel ih =>
    cases chars with
    | nil => exact endsWithin_failAt _
    | cons c rest =>
      unfold readText
      split
      · exact List.suffix_cons _ _
      · split
        · split
          · exact endsWithin_failAt _
          · next escaped more =>
            split
            · refine EndsWithin.of_suffix ?_ (List.suffix_cons _ _)
              exact (endsWithin_readCode _).bind fun decoded after _ => push decoded (ih after)
            · split
              · exact endsWithin_failAt _
              · next decoded _ => exact (push decoded (ih more)).of_suffix ⟨[c, escaped], rfl⟩
        · split
          · exact endsWithin_failAt _
          · exact (push c (ih rest)).of_suffix (List.suffix_cons _ _)

theorem digitRun_suffix (chars : List Char) : (digitRun chars).2 <:+ chars :=
  List.dropWhile_suffix _

theorem readFraction_suffix {digits : List Char}
    (read : readFraction chars = some (digits, rest)) : rest <:+ chars := by
  unfold readFraction at read
  split at read
  · next behind =>
    split at read
    · cases read
    · simp only [Option.some.injEq] at read
      have ends := digitRun_suffix behind
      rw [read] at ends
      exact ends.trans (List.suffix_cons _ _)
  · cases read

theorem readExponent_suffix {size : Int} (read : readExponent chars = some (size, rest)) :
    rest <:+ chars := by
  unfold readExponent at read
  split at read
  · cases read
  · next mark behind =>
    extract_lets signed run at read
    have unsigned : signed.2 <:+ behind := by
      unfold signed
      split
      · exact List.suffix_cons _ _
      · exact List.suffix_cons _ _
      · exact List.suffix_refl _
    split at read
    · split at read
      · cases read
      · cases read
        exact ((digitRun_suffix _).trans unsigned).trans (List.suffix_cons _ _)
    · cases read

theorem scaling_suffix (chars : List Char) :
    let fraction := (readFraction chars).getD ([], chars)
    ((readExponent fraction.2).getD (0, fraction.2)).2 <:+ chars := by
  intro fraction
  have fractional : fraction.2 <:+ chars := by
    unfold fraction
    cases read : readFraction chars with
    | none => exact List.suffix_refl chars
    | some found => exact readFraction_suffix read
  cases read : readExponent fraction.2 with
  | none => exact fractional
  | some found => exact (readExponent_suffix read).trans fractional

theorem endsWithin_readNumber (chars : List Char) :
    EndsWithin depth chars (readNumber chars) := by
  unfold readNumber
  extract_lets signed whole fraction exponent
  have unsigned : signed.2 <:+ chars := by
    unfold signed
    split
    · exact List.suffix_cons _ _
    · exact List.suffix_refl _
  have behind : whole.2 <:+ chars := by
    refine List.IsSuffix.trans ?_ unsigned
    unfold whole
    split
    · next same =>
      rw [same]
      exact List.suffix_cons _ _
    · exact digitRun_suffix _
  -- The digits before the point stand in the text as they are read, so a number that is too long
  -- strains it there.
  have digits : whole.1 <:+: chars ∧ ∀ c ∈ whole.1, c.isDigit = true := by
    unfold whole
    split
    · next rest same =>
      rw [same] at unsigned
      exact ⟨(List.prefix_append ['0'] rest).isInfix.trans unsigned.isInfix, by simp⟩
    · exact ⟨(List.takeWhile_prefix _).isInfix.trans unsigned.isInfix,
        List.all_eq_true.mp List.all_takeWhile⟩
  have scaled : exponent.2 <:+ chars := (scaling_suffix whole.2).trans behind
  split
  · exact endsWithin_failAt _
  · next given =>
    split
    · unfold readDigits
      rw [if_neg given]
      split
      · next long => exact .inr ⟨whole.1, digits.1, digits.2, long⟩
      · exact behind
    · exact scaled

theorem readName?_suffix {value : Value} (read : readName? chars = some (value, rest)) :
    rest <:+ chars := by
  unfold readName? at read
  obtain ⟨entry, _, same⟩ := Option.map_eq_some_iff.mp read
  cases same
  exact List.drop_suffix _ _

end Steps

section Documents

variable {standIn : Char}

mutual

theorem endsWithin_readValue (depth fuel : Nat) (chars : List Char) :
    EndsWithin depth chars (readValue standIn depth fuel chars) := by
  have deepest {bracket : Char} {rest : List Char} (opening : isOpening bracket = true)
      (deep : nestingLimit ≤ depth) : Strains depth (bracket :: rest) := by
    left
    rw [List.countP_cons_of_pos opening]
    omega
  cases fuel with
  | zero => exact endsWithin_failAt _
  | succ fuel =>
    unfold readValue
    split
    · next rest =>
      refine EndsWithin.of_suffix ?_ (List.suffix_cons _ rest)
      exact (endsWithin_readText _ fuel rest).bind fun _ after _ => List.suffix_refl after
    · next rest =>
      split
      · next deep => exact deepest rfl deep
      · refine EndsWithin.of_opened ?_ rfl
        split
        · next after closed => exact suffix_of_skipGap closed
        · exact (endsWithin_readMembers (depth + 1) fuel [] _).of_suffix (skipGap_suffix rest)
    · next rest =>
      split
      · next deep => exact deepest rfl deep
      · refine EndsWithin.of_opened ?_ rfl
        split
        · next after closed => exact suffix_of_skipGap closed
        · exact (endsWithin_readItems (depth + 1) fuel [] _).of_suffix (skipGap_suffix rest)
    · split
      · next found named => exact readName?_suffix named
      · exact endsWithin_readNumber _
termination_by fuel

theorem endsWithin_readMembers (depth fuel : Nat) (entries : Entries) (chars : List Char) :
    EndsWithin depth chars (readMembers standIn depth fuel entries chars) := by
  cases fuel with
  | zero => exact endsWithin_failAt _
  | succ fuel =>
    unfold readMembers
    split
    · next rest =>
      refine EndsWithin.of_suffix ?_ (List.suffix_cons _ rest)
      refine (endsWithin_readText _ fuel rest).bind fun name after _ => ?_
      dsimp only
      split
      · next behind colon =>
        refine EndsWithin.of_suffix ?_ (suffix_of_skipGap colon)
        refine EndsWithin.of_suffix ?_ (skipGap_suffix behind)
        refine (endsWithin_readValue depth fuel _).bind fun value after _ => ?_
        dsimp only
        split
        · next closed => exact suffix_of_skipGap closed
        · next further continued =>
          refine EndsWithin.of_suffix ?_ (suffix_of_skipGap continued)
          exact (endsWithin_readMembers depth fuel _ _).of_suffix (skipGap_suffix further)
        · exact endsWithin_failAt _
      · exact endsWithin_failAt _
    · exact endsWithin_failAt _
termination_by fuel

theorem endsWithin_readItems (depth fuel : Nat) (items : List Value) (chars : List Char) :
    EndsWithin depth chars (readItems standIn depth fuel items chars) := by
  cases fuel with
  | zero => exact endsWithin_failAt _
  | succ fuel =>
    unfold readItems
    refine (endsWithin_readValue depth fuel chars).bind fun item after _ => ?_
    dsimp only
    split
    · next closed => exact suffix_of_skipGap closed
    · next further continued =>
      refine EndsWithin.of_suffix ?_ (suffix_of_skipGap continued)
      exact (endsWithin_readItems depth fuel _ _).of_suffix (skipGap_suffix further)
    · exact endsWithin_failAt _
termination_by fuel

end

end Documents

/-- A document that goes beyond a limit has more opening brackets than may nest, or a run of digits
that is longer than numbers may be. -/
theorem strains_of_exceeding {document : String} {excess : Excess}
    (exceeds : read document = .error (.exceeding excess)) : Strains 0 document.toList := by
  obtain ⟨fault, whole, located⟩ := Outcome.mapError_eq_error_iff.mp exceeds
  cases fault with
  | leaves problem remaining => cases located
  | exceeds reached =>
    unfold readDocument at whole
    split at whole
    · cases whole
    · have within : EndsWithin 0 document.toList (readValue replacementChar 0
          (document.toList.length + 1) (skipGap document.toList)) :=
        (endsWithin_readValue 0 _ _).of_suffix (skipGap_suffix document.toList)
      cases found : readValue replacementChar 0 (document.toList.length + 1)
          (skipGap document.toList) with
      | ok reading =>
        rw [found] at whole
        obtain ⟨value, after⟩ := reading
        simp only [bind, Except.bind] at whole
        split at whole
        · cases whole
        · cases whole
      | error fault =>
        rw [found] at whole within
        cases whole
        exact within

end SqlScaffold.Json
