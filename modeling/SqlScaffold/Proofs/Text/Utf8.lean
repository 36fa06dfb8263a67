import SqlScaffold.Text.Utf8
import SqlScaffold.Proofs.Outcome

/-!
Which bytes are a text: those that encode characters. Decoding undoes the encoding, and every other
sequence of bytes is a fault.
-/

namespace SqlScaffold.Text

def encodeUtf8 (chars : List Char) : List UInt8 := chars.flatMap String.utf8EncodeChar

@[simp] theorem encodeUtf8_nil : encodeUtf8 [] = [] := rfl

@[simp] theorem encodeUtf8_cons (c : Char) (rest : List Char) :
    encodeUtf8 (c :: rest) = String.utf8EncodeChar c ++ encodeUtf8 rest := rfl

def byteOf (mark digit : Nat) : UInt8 := .ofNat (mark + digit)

theorem toNat_byteOf {mark digit : Nat} (fits : mark + digit < 256) :
    (byteOf mark digit).toNat = mark + digit := by
  rw [byteOf, UInt8.toNat_ofNat', Nat.mod_eq_of_lt fits]

theorem exists_byteOf {byte : UInt8} {mark size : Nat} (low : mark ≤ byte.toNat)
    (high : byte.toNat < mark + size) : ∃ digit < size, byte = byteOf mark digit := by
  refine ⟨byte.toNat - mark, by omega, ?_⟩
  rw [byteOf, Nat.add_sub_cancel' low, UInt8.ofNat_toNat]

inductive Spells : UInt8 → List UInt8 → Nat → Prop
  | one {a : Nat} (high : a < 0x80) : Spells (byteOf 0 a) [] a
  | two {a b : Nat} (low : 2 ≤ a) (high : a < 32) (small : b < 64) :
      Spells (byteOf 0xC0 a) [byteOf 0x80 b] (a * 64 + b)
  | three {a b c : Nat} (high : a < 16) (small : b < 64 ∧ c < 64) (low : a = 0 → 32 ≤ b)
      (whole : a = 13 → b < 32) :
      Spells (byteOf 0xE0 a) [byteOf 0x80 b, byteOf 0x80 c] ((a * 64 + b) * 64 + c)
  | four {a b c d : Nat} (high : a < 5) (small : b < 64 ∧ c < 64 ∧ d < 64)
      (low : a = 0 → 16 ≤ b) (last : a = 4 → b < 16) :
      Spells (byteOf 0xF0 a) [byteOf 0x80 b, byteOf 0x80 c, byteOf 0x80 d]
        (((a * 64 + b) * 64 + c) * 64 + d)

theorem val_ofNat (code : Nat) (valid : code.isValidChar) : (Char.ofNat code).val.toNat = code := by
  rw [Char.ofNat, dif_pos valid]
  rfl

theorem Spells.encode {lead : UInt8} {further : List UInt8} {code : Nat}
    (spells : Spells lead further code) :
    String.utf8EncodeChar (.ofNat code) = lead :: further := by
  cases spells with
  | one high =>
    have value := val_ofNat code (.inl (by omega))
    simp only [String.utf8EncodeChar, value]
    rw [if_pos (by omega), byteOf, Nat.zero_add]
  | @two a b low high small =>
    have value := val_ofNat (a * 64 + b) (.inl (by omega))
    have first : (a * 64 + b) / 64 % 32 = a := by omega
    have second : (a * 64 + b) % 64 = b := by omega
    simp only [String.utf8EncodeChar, value, first, second]
    rw [if_neg (by omega), if_pos (by omega), byteOf, byteOf, Nat.add_comm a, Nat.add_comm b]
  | @three a b c high small low whole =>
    have value := val_ofNat ((a * 64 + b) * 64 + c) (by unfold Nat.isValidChar; omega)
    have first : ((a * 64 + b) * 64 + c) / 4096 % 16 = a := by omega
    have second : ((a * 64 + b) * 64 + c) / 64 % 64 = b := by omega
    have third : ((a * 64 + b) * 64 + c) % 64 = c := by omega
    simp only [String.utf8EncodeChar, value, first, second, third]
    rw [if_neg (by omega), if_neg (by omega), if_pos (by omega), byteOf, byteOf, byteOf,
      Nat.add_comm a, Nat.add_comm b, Nat.add_comm c]
  | @four a b c d high small low last =>
    have value := val_ofNat (((a * 64 + b) * 64 + c) * 64 + d)
      (by unfold Nat.isValidChar; omega)
    have first : (((a * 64 + b) * 64 + c) * 64 + d) / 262144 % 8 = a := by omega
    have second : (((a * 64 + b) * 64 + c) * 64 + d) / 4096 % 64 = b := by omega
    have third : (((a * 64 + b) * 64 + c) * 64 + d) / 64 % 64 = c := by omega
    have fourth : (((a * 64 + b) * 64 + c) * 64 + d) % 64 = d := by omega
    simp only [String.utf8EncodeChar, value, first, second, third, fourth]
    rw [if_neg (by omega), if_neg (by omega), if_neg (by omega), byteOf, byteOf, byteOf, byteOf,
      Nat.add_comm a, Nat.add_comm b, Nat.add_comm c, Nat.add_comm d]

theorem exists_spells (char : Char) : ∃ lead further, Spells lead further char.toNat := by
  have valid : char.toNat < 0xD800 ∨ 0xDFFF < char.toNat ∧ char.toNat < 0x110000 := char.valid
  have digits (number : Nat) : number = number / 64 * 64 + number % 64 := by omega
  have small (number : Nat) : number % 64 < 64 := Nat.mod_lt _ (by decide)
  generalize char.toNat = code at valid
  by_cases one : code < 0x80
  · exact ⟨_, _, .one one⟩
  by_cases two : code < 0x800
  · rw [digits code]
    exact ⟨_, _, .two (by omega) (by omega) (small code)⟩
  by_cases three : code < 0x10000
  · rw [digits code, digits (code / 64)]
    exact ⟨_, _, .three (by omega) ⟨small _, small _⟩ (by omega) (by omega)⟩
  · rw [digits code, digits (code / 64), digits (code / 64 / 64)]
    exact ⟨_, _, .four (by omega) ⟨small _, small _, small _⟩ (by omega) (by omega)⟩

theorem encode_spells (char : Char) :
    ∃ lead further, String.utf8EncodeChar char = lead :: further ∧
      Spells lead further char.toNat := by
  obtain ⟨lead, further, spells⟩ := exists_spells char
  have encoded := spells.encode
  rw [Char.ofNat_toNat] at encoded
  exact ⟨lead, further, encoded, spells⟩

def Continues : Nat → List UInt8 → Prop
  | _, [] => True
  | lead, byte :: rest => secondAllowed lead byte.toNat = true ∧ Continues 0x80 rest

theorem secondAllowed_iff {lead byte : Nat} :
    secondAllowed lead byte = true ↔ (0x80 ≤ byte ∧ byte < 0xC0) ∧
      (lead = 0xE0 → 0xA0 ≤ byte) ∧ (lead = 0xF0 → 0x90 ≤ byte) ∧
      (lead = 0xED → byte < 0xA0) ∧ (lead = 0xF4 → byte < 0x90) := by
  simp only [secondAllowed, Bool.and_eq_true, decide_eq_true_eq]
  grind

theorem continuationCount_eq_iff {lead count : Nat} {bytes : List UInt8} :
    continuationCount lead count bytes = count ↔
      count ≤ bytes.length ∧ Continues lead (bytes.take count) := by
  induction bytes generalizing lead count with
  | nil => simp [continuationCount, Continues, eq_comm]
  | cons byte rest ih =>
    cases count with
    | zero => simp [continuationCount, Continues]
    | succ count =>
      by_cases allowed : secondAllowed lead byte.toNat = true
      · simp [continuationCount, Continues, allowed, Nat.add_comm 1, ih]
      · simp [continuationCount, Continues, allowed]

theorem width_cases {lead : Nat} {further : List UInt8}
    (width : sequenceWidth? lead = some (further.length + 1)) :
    (lead < 0x80 ∧ further = []) ∨ (0xC2 ≤ lead ∧ lead < 0xE0 ∧ ∃ a, further = [a]) ∨
      (0xE0 ≤ lead ∧ lead < 0xF0 ∧ ∃ a b, further = [a, b]) ∨
      (0xF0 ≤ lead ∧ lead < 0xF5 ∧ ∃ a b c, further = [a, b, c]) := by
  unfold sequenceWidth? at width
  match further with
  | [] => grind
  | [a] => grind
  | [a, b] => grind
  | [a, b, c] => grind
  | _ :: _ :: _ :: _ :: rest => grind

theorem Spells.width {lead : UInt8} {further : List UInt8} {code : Nat}
    (spells : Spells lead further code) :
    sequenceWidth? lead.toNat = some (further.length + 1) := by
  cases spells with
  | one high =>
    rw [toNat_byteOf (by omega)]
    unfold sequenceWidth?
    grind
  | two low high small =>
    rw [toNat_byteOf (by omega)]
    unfold sequenceWidth?
    grind
  | three high small low whole =>
    rw [toNat_byteOf (by omega)]
    unfold sequenceWidth?
    grind
  | four high small low last =>
    rw [toNat_byteOf (by omega)]
    unfold sequenceWidth?
    grind

theorem Spells.continues {lead : UInt8} {further : List UInt8} {code : Nat}
    (spells : Spells lead further code) : Continues lead.toNat further := by
  cases spells with
  | one high => trivial
  | two low high small =>
    simp (disch := omega) only [Continues, toNat_byteOf, secondAllowed_iff, and_true]
    omega
  | three high small low whole =>
    simp (disch := omega) only [Continues, toNat_byteOf, secondAllowed_iff, and_true]
    omega
  | four high small low last =>
    simp (disch := omega) only [Continues, toNat_byteOf, secondAllowed_iff, and_true]
    omega

theorem Spells.codeOf_eq {lead : UInt8} {further : List UInt8} {code : Nat}
    (spells : Spells lead further code) :
    codeOf lead.toNat (further.length + 1) further = code := by
  have start {mark digit size : Nat} (small : digit < size) (marked : mark % size = 0) :
      (mark + digit) % size = digit := by
    rw [Nat.add_mod, marked, Nat.zero_add, Nat.mod_mod, Nat.mod_eq_of_lt small]
  cases spells with
  | one high =>
    have fits : 0 + code < 256 := by omega
    simpa [codeOf] using toNat_byteOf fits
  | two low high small =>
    simp (disch := omega) [codeOf, toNat_byteOf, start]
  | three high small low whole =>
    simp (disch := omega) [codeOf, toNat_byteOf, start]
  | four high small low last =>
    simp (disch := omega) [codeOf, toNat_byteOf, start]

theorem exists_spells_of_sequence {lead : UInt8} {further : List UInt8}
    (width : sequenceWidth? lead.toNat = some (further.length + 1))
    (continues : Continues lead.toNat further) : ∃ code, Spells lead further code := by
  rcases width_cases width with ⟨high, rfl⟩ | ⟨low, high, x, rfl⟩ | ⟨low, high, x, y, rfl⟩ |
    ⟨low, high, x, y, z, rfl⟩
  · obtain ⟨a, bound, rfl⟩ := exists_byteOf (Nat.zero_le _) (by omega : lead.toNat < 0 + 0x80)
    exact ⟨_, .one bound⟩
  · simp only [Continues, secondAllowed_iff] at continues
    obtain ⟨a, first, rfl⟩ := exists_byteOf (by omega) (by omega : lead.toNat < 0xC0 + 32)
    obtain ⟨b, second, rfl⟩ := exists_byteOf (by omega) (by omega : x.toNat < 0x80 + 64)
    simp (disch := omega) only [toNat_byteOf] at low high continues
    exact ⟨_, .two (by omega) first second⟩
  · simp only [Continues, secondAllowed_iff] at continues
    obtain ⟨a, first, rfl⟩ := exists_byteOf (by omega) (by omega : lead.toNat < 0xE0 + 16)
    obtain ⟨b, second, rfl⟩ := exists_byteOf (by omega) (by omega : x.toNat < 0x80 + 64)
    obtain ⟨c, third, rfl⟩ := exists_byteOf (by omega) (by omega : y.toNat < 0x80 + 64)
    simp (disch := omega) only [toNat_byteOf] at low high continues
    exact ⟨_, .three first ⟨second, third⟩ (by omega) (by omega)⟩
  · simp only [Continues, secondAllowed_iff] at continues
    obtain ⟨a, first, rfl⟩ := exists_byteOf (by omega) (by omega : lead.toNat < 0xF0 + 5)
    obtain ⟨b, second, rfl⟩ := exists_byteOf (by omega) (by omega : x.toNat < 0x80 + 64)
    obtain ⟨c, third, rfl⟩ := exists_byteOf (by omega) (by omega : y.toNat < 0x80 + 64)
    obtain ⟨d, fourth, rfl⟩ := exists_byteOf (by omega) (by omega : z.toNat < 0x80 + 64)
    simp (disch := omega) only [toNat_byteOf] at low high continues
    exact ⟨_, .four first ⟨second, third, fourth⟩ (by omega) (by omega)⟩

/-- A sequence is as wide as its lead says, and its bytes may stand where they do. -/
theorem spells_iff {lead : UInt8} {further : List UInt8} {code : Nat} :
    Spells lead further code ↔ sequenceWidth? lead.toNat = some (further.length + 1) ∧
      Continues lead.toNat further ∧ codeOf lead.toNat (further.length + 1) further = code := by
  constructor
  · intro spells
    exact ⟨spells.width, spells.continues, spells.codeOf_eq⟩
  · rintro ⟨width, continues, rfl⟩
    obtain ⟨code, spells⟩ := exists_spells_of_sequence width continues
    rwa [spells.codeOf_eq]

theorem sequenceWidth?_pos {lead width : Nat} (starts : sequenceWidth? lead = some width) :
    0 < width := by
  unfold sequenceWidth? at starts
  grind

theorem Spells.length_eq {lead : UInt8} {further : List UInt8} {code missing : Nat}
    (spells : Spells lead further code)
    (starts : sequenceWidth? lead.toNat = some (missing + 1)) : further.length = missing := by
  have same := starts.symm.trans spells.width
  simp only [Option.some.injEq] at same
  omega

theorem decodeFrom_cons_iff {start fuel : Nat} {lead : UInt8} {rest : List UInt8}
    {chars : List Char} :
    decodeFrom start (fuel + 1) (lead :: rest) = .ok chars ↔
      ∃ further after code tail, rest = further ++ after ∧ Spells lead further code ∧
        decodeFrom (start + (further.length + 1)) fuel after = .ok tail ∧
          chars = .ofNat code :: tail := by
  rw [decodeFrom]
  dsimp only
  cases starts : sequenceWidth? lead.toNat with
  | none =>
    refine iff_of_false (by simp) ?_
    rintro ⟨further, _, _, _, _, spells, _⟩
    cases starts.symm.trans spells.width
  | some width =>
    obtain ⟨missing, rfl⟩ := Nat.exists_eq_add_one.mpr (sequenceWidth?_pos starts)
    dsimp only
    rw [Nat.add_sub_cancel]
    -- The lead asks for `missing` bytes more, which are all there and in place, or are not.
    by_cases counted : continuationCount lead.toNat missing rest = missing
    · obtain ⟨enough, continues⟩ := continuationCount_eq_iff.mp counted
      have length : (rest.take missing).length = missing := by simp [enough]
      rw [counted, if_pos rfl, Outcome.bind_eq_ok_iff]
      constructor
      · rintro ⟨tail, decoded, made⟩
        cases made
        refine ⟨rest.take missing, rest.drop missing, _, tail, (List.take_append_drop _ _).symm,
          spells_iff.mpr ⟨by rw [length, starts], continues, rfl⟩, by rwa [length], by rw [length]⟩
      · rintro ⟨further, after, code, tail, rfl, spells, decoded, rfl⟩
        obtain rfl := spells.length_eq starts
        rw [List.drop_left, List.take_left, (spells_iff.mp spells).2.2]
        exact ⟨tail, decoded, rfl⟩
    · rw [if_neg (by omega)]
      refine iff_of_false (by split <;> simp) ?_
      rintro ⟨further, after, code, tail, rfl, spells, _⟩
      obtain rfl := spells.length_eq starts
      exact counted (continuationCount_eq_iff.mpr
        ⟨by simp, by simpa using (spells_iff.mp spells).2.1⟩)

theorem nil_eq_encodeUtf8_iff {chars : List Char} : [] = encodeUtf8 chars ↔ chars = [] := by
  cases chars with
  | nil => simp
  | cons c rest =>
    obtain ⟨lead, further, encoded, _⟩ := encode_spells c
    simp [encoded]

theorem decodeFrom_nil_iff {start fuel : Nat} {chars : List Char} :
    decodeFrom start fuel [] = .ok chars ↔ [] = encodeUtf8 chars := by
  rw [nil_eq_encodeUtf8_iff]
  cases fuel with
  | zero => simp [decodeFrom, eq_comm]
  | succ fuel => simp [decodeFrom, eq_comm]

theorem decodeFrom_eq_ok_iff {start fuel : Nat} {bytes : List UInt8} {chars : List Char}
    (enough : bytes.length ≤ fuel) :
    decodeFrom start fuel bytes = .ok chars ↔ bytes = encodeUtf8 chars := by
  induction fuel generalizing start bytes chars with
  | zero =>
    rw [List.eq_nil_of_length_eq_zero (Nat.le_zero.mp enough)]
    exact decodeFrom_nil_iff
  | succ fuel ih =>
    cases bytes with
    | nil => exact decodeFrom_nil_iff
    | cons lead rest =>
      have fewer : rest.length ≤ fuel := Nat.le_of_succ_le_succ enough
      rw [decodeFrom_cons_iff]
      constructor
      · rintro ⟨further, after, code, tail, rfl, spells, decoded, rfl⟩
        rw [List.length_append] at fewer
        rw [encodeUtf8_cons, spells.encode, (ih (by omega)).mp decoded, List.cons_append]
      · intro encoded
        cases chars with
        | nil => cases encoded
        | cons c tail =>
          obtain ⟨first, further, same, spells⟩ := encode_spells c
          rw [encodeUtf8_cons, same, List.cons_append] at encoded
          obtain ⟨rfl, rfl⟩ := List.cons.inj encoded
          rw [List.length_append] at fewer
          exact ⟨further, _, _, tail, rfl, spells, (ih (by omega)).mpr rfl,
            by rw [Char.ofNat_toNat]⟩

/-- Bytes are decoded to characters exactly if they encode them. -/
theorem decodeUtf8_eq_ok_iff {bytes : List UInt8} {chars : List Char} :
    decodeUtf8 bytes = .ok chars ↔ bytes = encodeUtf8 chars :=
  decodeFrom_eq_ok_iff (Nat.le_refl _)

end SqlScaffold.Text
