import GroupKey.Hex.Basic

/-!
# What hexadecimal text spells

* `IsDigitOf`: a digit stands for its place in the alphabet, in either case;
* `Spells`: which bytes a text of digits spells, position by position;
* `decode_eq_ok_iff`: the decoder gives exactly the bytes that the text spells;
* `exists_spells_iff`: a text spells some bytes exactly when its digits pair up.
-/

namespace GroupKey.Hex

def lowerDigits : Bytes := Utf8.encode "0123456789abcdef"

def upperDigits : Bytes := Utf8.encode "0123456789ABCDEF"

/-- A byte is the digit for a number in one of the two alphabets. -/
def IsDigitOf (n : Nat) (b : UInt8) : Prop := lowerDigits[n]? = some b ∨ upperDigits[n]? = some b

def IsDigit (b : UInt8) : Prop := ∃ n, IsDigitOf n b

/-- A text that can be read: every byte is a digit, and none is left without a partner. -/
structure Paired (text : Bytes) : Prop where
  even : text.length % 2 = 0
  digits : ∀ b ∈ text, IsDigit b

/-- Each byte is spelled by the two digits at twice its place, the high one first, and there are no
other digits. -/
structure Spells (text bytes : Bytes) : Prop where
  length : text.length = 2 * bytes.length
  byte : ∀ i b, bytes[i]? = some b → ∃ high low h l,
    text[2 * i]? = some high ∧ text[2 * i + 1]? = some low ∧
      IsDigitOf h high ∧ IsDigitOf l low ∧ b.toNat = 16 * h + l

theorem isDigitOf_lt {n : Nat} {b : UInt8} (h : IsDigitOf n b) : n < 16 := by
  rcases h with h | h <;> exact (List.getElem?_eq_some_iff.mp h).1

theorem digit?_of_isDigitOf {n : Nat} {b : UInt8} (h : IsDigitOf n b) : digit? b = some n := by
  have small := isDigitOf_lt h
  have lower : ∀ n < 16, lowerDigits[n]?.bind digit? = some n := by decide
  have upper : ∀ n < 16, upperDigits[n]?.bind digit? = some n := by decide
  rcases h with h | h
  · simpa [h] using lower n small
  · simpa [h] using upper n small

theorem isDigitOf_of_digit? {n : Nat} {b : UInt8} (h : digit? b = some n) : IsDigitOf n b := by
  have decimals : ∀ n < 10, lowerDigits[n]? = some (UInt8.ofNat (n + 0x30)) := by decide
  have capitals : ∀ n < 6, upperDigits[n + 10]? = some (UInt8.ofNat (n + 0x41)) := by decide
  have smalls : ∀ n < 6, lowerDigits[n + 10]? = some (UInt8.ofNat (n + 0x61)) := by decide
  simp only [digit?] at h
  split at h
  · next range =>
    cases h
    have at_place := decimals (b.toNat - 0x30) (by omega)
    rw [Nat.sub_add_cancel range.1, UInt8.ofNat_toNat] at at_place
    exact .inl at_place
  · split at h
    · next range =>
      cases h
      have at_place := capitals (b.toNat - 0x41) (by omega)
      rw [Nat.sub_add_cancel range.1, UInt8.ofNat_toNat] at at_place
      exact .inr at_place
    · split at h
      · next range =>
        cases h
        have at_place := smalls (b.toNat - 0x61) (by omega)
        rw [Nat.sub_add_cancel range.1, UInt8.ofNat_toNat] at at_place
        exact .inl at_place
      · cases h

theorem digit?_eq_some_iff {n : Nat} {b : UInt8} : digit? b = some n ↔ IsDigitOf n b :=
  ⟨isDigitOf_of_digit?, digit?_of_isDigitOf⟩

theorem digit?_eq_none_iff {b : UInt8} : digit? b = none ↔ ¬ IsDigit b := by
  constructor
  · rintro h ⟨n, hn⟩
    rw [digit?_eq_some_iff.mpr hn] at h
    cases h
  · intro h
    cases found : digit? b with
    | none => rfl
    | some n => exact absurd ⟨n, digit?_eq_some_iff.mp found⟩ h

theorem toNat_ofNat_pair {h l : Nat} (high : h < 16) (low : l < 16) :
    (UInt8.ofNat (16 * h + l)).toNat = 16 * h + l := by
  rw [UInt8.toNat_ofNat']
  omega

theorem Spells.length_eq {text bytes : Bytes} (h : Spells text bytes) :
    bytes.length = text.length / 2 := by
  rw [h.length]
  omega

theorem spells_nil : Spells [] [] := ⟨rfl, by simp⟩

theorem exists_cons_of_spells {high low : UInt8} {rest bytes : Bytes}
    (h : Spells (high :: low :: rest) bytes) : ∃ b tail, bytes = b :: tail := by
  cases bytes with
  | nil => simpa using h.length
  | cons b tail => exact ⟨b, tail, rfl⟩

theorem spells_cons_iff {high low b : UInt8} {rest bytes : Bytes} :
    Spells (high :: low :: rest) (b :: bytes) ↔
      (∃ h l, IsDigitOf h high ∧ IsDigitOf l low ∧ b.toNat = 16 * h + l) ∧ Spells rest bytes := by
  constructor
  · intro ⟨length, byte⟩
    obtain ⟨high', low', h, l, at_high, at_low, is_high, is_low, value⟩ := byte 0 b rfl
    cases at_high
    cases at_low
    refine ⟨⟨h, l, is_high, is_low, value⟩, by simpa [Nat.mul_add] using length, ?_⟩
    intro i c at_i
    simpa [Nat.mul_add] using byte (i + 1) c at_i
  · rintro ⟨⟨h, l, is_high, is_low, value⟩, length, byte⟩
    refine ⟨by simpa [Nat.mul_add] using length, ?_⟩
    intro i c at_i
    cases i with
    | zero =>
      cases at_i
      exact ⟨high, low, h, l, rfl, rfl, is_high, is_low, value⟩
    | succ i => simpa [Nat.mul_add] using byte i c at_i

/-- The pairs that the decoder reads are those that the text spells, wherever they stand. -/
theorem decodePairs_eq_ok_iff (index : Nat) (text bytes : Bytes) :
    decodePairs index text = .ok bytes ↔ Spells text bytes := by
  induction index, text using decodePairs.induct generalizing bytes with
  | case1 index =>
    rw [decodePairs, Except.ok.injEq]
    constructor
    · rintro rfl
      exact spells_nil
    · intro ⟨length, _⟩
      rw [List.length_nil] at length
      exact (List.length_eq_zero_iff.mp (by omega)).symm
  | case2 index head =>
    refine iff_of_false (by simp [decodePairs]) ?_
    intro ⟨length, _⟩
    rw [List.length_singleton] at length
    omega
  | case3 index high low rest no_high =>
    refine iff_of_false (by simp [decodePairs, no_high]) ?_
    intro spells
    obtain ⟨b, bytes, rfl⟩ := exists_cons_of_spells spells
    obtain ⟨⟨h, _, is_high, _, _⟩, _⟩ := spells_cons_iff.mp spells
    exact digit?_eq_none_iff.mp no_high ⟨h, is_high⟩
  | case4 index high low rest h no_low is_high =>
    refine iff_of_false (by simp [decodePairs, no_low, is_high]) ?_
    intro spells
    obtain ⟨b, bytes, rfl⟩ := exists_cons_of_spells spells
    obtain ⟨⟨_, l, _, is_low, _⟩, _⟩ := spells_cons_iff.mp spells
    exact digit?_eq_none_iff.mp no_low ⟨l, is_low⟩
  | case5 index high low rest h l is_low is_high ih =>
    have h_digit := digit?_eq_some_iff.mp is_high
    have l_digit := digit?_eq_some_iff.mp is_low
    have h_lt := isDigitOf_lt h_digit
    have l_lt := isDigitOf_lt l_digit
    have read : decodePairs index (high :: low :: rest) =
        (decodePairs (index + 2) rest).map (UInt8.ofNat (16 * h + l) :: ·) := by
      simp [decodePairs, is_low, is_high]
    rw [read]
    constructor
    · intro decoded
      cases found : decodePairs (index + 2) rest with
      | error defect =>
        rw [found] at decoded
        cases decoded
      | ok tail =>
        rw [found] at decoded
        cases decoded
        exact spells_cons_iff.mpr ⟨⟨h, l, h_digit, l_digit, toNat_ofNat_pair h_lt l_lt⟩,
          (ih tail).mp found⟩
    · intro spells
      obtain ⟨b, tail, rfl⟩ := exists_cons_of_spells spells
      obtain ⟨⟨h', l', is_high', is_low', value⟩, spells⟩ := spells_cons_iff.mp spells
      have h_eq : h' = h := Option.some.inj ((digit?_eq_some_iff.mpr is_high').symm.trans is_high)
      have l_eq : l' = l := Option.some.inj ((digit?_eq_some_iff.mpr is_low').symm.trans is_low)
      have b_eq : UInt8.ofNat (16 * h + l) = b := by
        rw [← h_eq, ← l_eq, ← value, UInt8.ofNat_toNat]
      rw [(ih tail).mpr spells, b_eq]
      rfl

/-- **The decoder gives exactly the bytes that the text spells.** -/
theorem decode_eq_ok_iff {text : String} {bytes : Bytes} :
    decode text = .ok bytes ↔ Spells (Utf8.encode text) bytes := by
  unfold decode
  by_cases odd : (Utf8.encode text).length % 2 = 1
  · refine iff_of_false (by simp [odd]) ?_
    intro ⟨length, _⟩
    omega
  · simpa [odd] using decodePairs_eq_ok_iff 0 (Utf8.encode text) bytes

theorem paired_of_spells {text bytes : Bytes} (h : Spells text bytes) : Paired text := by
  refine ⟨by rw [h.length]; omega, ?_⟩
  intro b hb
  obtain ⟨k, hk⟩ := List.mem_iff_getElem?.mp hb
  have bound := (List.getElem?_eq_some_iff.mp hk).1
  have pair : k / 2 < bytes.length := by have := h.length; omega
  obtain ⟨high, low, x, y, at_high, at_low, is_high, is_low, _⟩ :=
    h.byte (k / 2) bytes[k / 2] (List.getElem?_eq_getElem pair)
  -- A place is the first or the second of its pair.
  rcases Nat.mod_two_eq_zero_or_one k with even | odd
  · rw [show 2 * (k / 2) = k by omega, hk] at at_high
    exact ⟨x, Option.some.inj at_high ▸ is_high⟩
  · rw [show 2 * (k / 2) + 1 = k by omega, hk] at at_low
    exact ⟨y, Option.some.inj at_low ▸ is_low⟩

theorem exists_spells_of_paired : ∀ {text : Bytes}, Paired text → ∃ bytes, Spells text bytes
  | [], _ => ⟨[], spells_nil⟩
  | [_], h => by simpa using h.even
  | high :: low :: rest, h => by
    obtain ⟨x, is_high⟩ := h.digits high (by simp)
    obtain ⟨y, is_low⟩ := h.digits low (by simp)
    have even := h.even
    simp only [List.length_cons] at even
    have paired : Paired rest := ⟨by omega, fun b hb => h.digits b (by simp [hb])⟩
    obtain ⟨bytes, spells⟩ := exists_spells_of_paired paired
    exact ⟨UInt8.ofNat (16 * x + y) :: bytes, spells_cons_iff.mpr
      ⟨⟨x, y, is_high, is_low, toNat_ofNat_pair (isDigitOf_lt is_high) (isDigitOf_lt is_low)⟩,
        spells⟩⟩

/-- **A text can be read exactly when its digits pair up.** -/
theorem exists_spells_iff {text : Bytes} : (∃ bytes, Spells text bytes) ↔ Paired text :=
  ⟨fun ⟨_, h⟩ => paired_of_spells h, exists_spells_of_paired⟩

theorem exists_decode_error {text : String} (h : ¬ Paired (Utf8.encode text)) :
    ∃ defect, decode text = .error defect := by
  cases found : decode text with
  | error defect => exact ⟨defect, rfl⟩
  | ok bytes => exact absurd (paired_of_spells (decode_eq_ok_iff.mp found)) h

theorem isDigit_bounds {b : UInt8} (h : IsDigit b) : 0x30 ≤ b.toNat ∧ b.toNat < 0x80 := by
  obtain ⟨n, is_digit⟩ := h
  have digit := digit?_eq_some_iff.mpr is_digit
  simp only [digit?] at digit
  split at digit
  · omega
  · split at digit
    · omega
    · split at digit
      · omega
      · cases digit

end GroupKey.Hex
