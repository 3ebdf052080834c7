import GroupKey.Proofs.Hex.Reading
import GroupKey.Proofs.Text.SmallLetters

/-!
# Bytes and the texts that spell them

Every sequence of bytes has one spelling in small letters. The other spellings differ from it in the
case of letters, and there are no more.

* `spells_iff_small`: digits spell bytes exactly when they are their spelling in small letters, but
  for the case;
* `readKey_eq_ok_iff`: the texts that are read as given bytes;
* `readKey_round_trip`: bytes are read from all their spellings and from nothing else.
-/

namespace GroupKey

namespace Hex

def digitsOf (b : UInt8) : List Char := [Nat.digitChar (b.toNat / 16), Nat.digitChar (b.toNat % 16)]

def encode (bytes : Bytes) : String := String.ofList (bytes.flatMap digitsOf)

/-- A text with capitals in some places; what is no letter stays as it is there. -/
def recased (capital : Nat → Bool) (text : String) : String :=
  String.ofList (text.toList.mapIdx fun place c => if capital place then c.toUpper else c)

theorem isDigitOf_iff_small {n : Nat} {b : UInt8} :
    IsDigitOf n b ↔ lowerDigits[n]? = some (Utf8.small b) := by
  constructor
  · intro h
    have bound := isDigitOf_lt h
    have lower : ∀ n < 16, lowerDigits[n]?.map Utf8.small = lowerDigits[n]? := by decide
    have upper : ∀ n < 16, upperDigits[n]?.map Utf8.small = lowerDigits[n]? := by decide
    rcases h with h | h
    · rw [← lower n bound, h, Option.map_some]
    · rw [← upper n bound, h, Option.map_some]
  · intro h
    have bound : n < 16 := (List.getElem?_eq_some_iff.mp h).1
    have capitals : ∀ n < 16, lowerDigits[n]?.bind (fun d =>
        if 0x61 ≤ d.toNat then some (d - 0x20) else upperDigits[n]?) = upperDigits[n]? := by decide
    by_cases letter : 0x41 ≤ b.toNat ∧ b.toNat ≤ 0x5A
    · rw [Utf8.small, if_pos letter] at h
      have raised : 0x61 ≤ (b + 0x20).toNat := by
        rw [UInt8.toNat_add]
        have : (0x20 : UInt8).toNat = 0x20 := rfl
        omega
      have found := capitals n bound
      rw [h, Option.bind_some, if_pos raised, UInt8.add_sub_cancel] at found
      exact .inr found.symm
    · rw [Utf8.small, if_neg letter] at h
      exact .inl h

theorem utf8EncodeChar_digitChar {n : Nat} (bound : n < 16) :
    ∃ d, lowerDigits[n]? = some d ∧ String.utf8EncodeChar (Nat.digitChar n) = [d] := by
  have all : ∀ n < 16, lowerDigits[n]?.map (fun d => [d]) =
      some (String.utf8EncodeChar (Nat.digitChar n)) := by decide
  obtain ⟨d, found, spelled⟩ := Option.map_eq_some_iff.mp (all n bound)
  exact ⟨d, found, spelled.symm⟩

theorem exists_digits (b : UInt8) (bytes : Bytes) :
    ∃ high low, lowerDigits[b.toNat / 16]? = some high ∧ lowerDigits[b.toNat % 16]? = some low ∧
      Utf8.encode (encode (b :: bytes)) = high :: low :: Utf8.encode (encode bytes) := by
  have small := b.toNat_lt
  obtain ⟨high, is_high, high_spelled⟩ := utf8EncodeChar_digitChar (n := b.toNat / 16) (by omega)
  obtain ⟨low, is_low, low_spelled⟩ := utf8EncodeChar_digitChar (n := b.toNat % 16) (by omega)
  refine ⟨high, low, is_high, is_low, ?_⟩
  simp only [Utf8.encode, encode, String.toList_ofList, List.flatMap_cons, digitsOf,
    high_spelled, low_spelled, List.cons_append, List.nil_append]

/-- The pair of digits that a text begins with makes a byte exactly if it is the pair that spells
the byte, but for the case. -/
theorem pair_iff_small {x y b high low : UInt8} (is_high : lowerDigits[b.toNat / 16]? = some high)
    (is_low : lowerDigits[b.toNat % 16]? = some low) :
    (∃ h l, IsDigitOf h x ∧ IsDigitOf l y ∧ b.toNat = 16 * h + l) ↔
      Utf8.small x = high ∧ Utf8.small y = low := by
  constructor
  · rintro ⟨h, l, x_digit, y_digit, value⟩
    have bound := isDigitOf_lt y_digit
    rw [isDigitOf_iff_small] at x_digit y_digit
    rw [show b.toNat / 16 = h by omega, x_digit] at is_high
    rw [show b.toNat % 16 = l by omega, y_digit] at is_low
    exact ⟨Option.some.inj is_high, Option.some.inj is_low⟩
  · rintro ⟨rfl, rfl⟩
    exact ⟨_, _, isDigitOf_iff_small.mpr is_high, isDigitOf_iff_small.mpr is_low, by omega⟩

/-- **Digits spell bytes exactly when they are their spelling in small letters**, but for the
case. -/
theorem spells_iff_small {text bytes : Bytes} :
    Spells text bytes ↔ text.map Utf8.small = Utf8.encode (encode bytes) := by
  -- By the bytes, each of which takes two digits from the front of the text.
  induction bytes generalizing text with
  | nil =>
    have nothing : Utf8.encode (encode []) = [] := rfl
    rw [nothing, List.map_eq_nil_iff]
    constructor
    · intro spells
      exact List.length_eq_zero_iff.mp spells.length
    · rintro rfl
      exact spells_nil
  | cons b bytes ih =>
    obtain ⟨high, low, is_high, is_low, spelled⟩ := exists_digits b bytes
    rw [spelled]
    match text with
    | [] => exact iff_of_false (fun spells => by simpa using spells.length) (by simp)
    | [x] =>
      refine iff_of_false (fun spells => ?_) (by simp)
      have length := spells.length
      rw [List.length_singleton] at length
      omega
    | x :: y :: rest =>
      rw [spells_cons_iff, ih, pair_iff_small is_high is_low, List.map_cons, List.map_cons,
        List.cons.injEq, List.cons.injEq, and_assoc]

theorem toLower_of_digit {bytes : Bytes} {c : Char} (listed : c ∈ (encode bytes).toList) :
    c.toLower = c ∧ c.toUpper.toLower = c := by
  have all : ∀ n < 16, (Nat.digitChar n).toLower = Nat.digitChar n ∧
      (Nat.digitChar n).toUpper.toLower = Nat.digitChar n := by decide
  rw [encode, String.toList_ofList, List.mem_flatMap] at listed
  obtain ⟨b, _, digit⟩ := listed
  have small := b.toNat_lt
  simp only [digitsOf, List.mem_cons, List.not_mem_nil, or_false] at digit
  rcases digit with rfl | rfl
  · exact all _ (by omega)
  · exact all _ (by omega)

theorem toLower_recased (capital : Nat → Bool) (bytes : Bytes) :
    (recased capital (encode bytes)).toLower = encode bytes := by
  apply String.toList_inj.mp
  rw [Utf8.toList_toLower, recased, String.toList_ofList]
  apply List.ext_getElem?
  intro place
  rw [List.getElem?_map, List.getElem?_mapIdx]
  cases found : (encode bytes).toList[place]? with
  | none => rfl
  | some c =>
    obtain ⟨kept, back⟩ := toLower_of_digit (List.mem_of_getElem? found)
    rw [Option.map_some, Option.map_some]
    cases capital place with
    | true => exact congrArg some back
    | false => exact congrArg some kept

end Hex

/-- **The texts that are read as given bytes** are their spellings, in letters of either case. -/
theorem readKey_eq_ok_iff {name text : String} {bytes : Bytes} :
    readKey name text = .ok bytes ↔ text.toLower = Hex.encode bytes := by
  have read : readKey name text = .ok bytes ↔ Hex.decode text = .ok bytes := by
    rw [readKey]
    cases Hex.decode text <;> simp [Except.mapError]
  rw [read, Hex.decode_eq_ok_iff, Hex.spells_iff_small, ← Utf8.encode_toLower]
  exact ⟨Utf8.encode_injective, congrArg Utf8.encode⟩

/-- **Bytes are read from all their spellings and from nothing else.** Any letters of the spelling
may be capitals; what is read is spelled by the text in small letters; texts are read as the same
bytes exactly if they differ in the case of letters at most; and there are no bytes that cannot be
read from some text. -/
theorem readKey_round_trip (name : String) :
    (∀ bytes capital, readKey name (Hex.recased capital (Hex.encode bytes)) = .ok bytes) ∧
    (∀ text bytes, readKey name text = .ok bytes → Hex.encode bytes = text.toLower) ∧
    (∀ text other bytes bytes', readKey name text = .ok bytes → readKey name other = .ok bytes' →
      (bytes = bytes' ↔ text.toLower = other.toLower)) ∧
    ∀ bytes, ∃ text, readKey name text = .ok bytes := by
  have from_all : ∀ bytes capital,
      readKey name (Hex.recased capital (Hex.encode bytes)) = .ok bytes :=
    fun bytes capital => readKey_eq_ok_iff.mpr (Hex.toLower_recased capital bytes)
  refine ⟨from_all, fun text bytes read => (readKey_eq_ok_iff.mp read).symm, ?_,
    fun bytes => ⟨_, from_all bytes fun _ => false⟩⟩
  intro text other bytes bytes' read read'
  constructor
  · rintro rfl
    exact (readKey_eq_ok_iff.mp read).trans (readKey_eq_ok_iff.mp read').symm
  · intro same
    rw [readKey_eq_ok_iff, same, ← readKey_eq_ok_iff, read'] at read
    exact (Except.ok.inj read).symm

/-- Two spellings of the same bytes in different letters. -/
theorem readKey_round_trip_of_two :
    readKey "GROUP_ID" "dEaD" = .ok [0xDE, 0xAD] ∧ Hex.encode [0xDE, 0xAD] = "dEaD".toLower ∧
      ([0xDE, 0xAD] = ([0xDE, 0xAD] : Bytes) ↔ "dEaD".toLower = "DeAd".toLower) := by
  have read : readKey "GROUP_ID" "dEaD" = .ok [0xDE, 0xAD] := by decide
  have read' : readKey "GROUP_ID" "DeAd" = .ok [0xDE, 0xAD] := by decide
  obtain ⟨_, spelled, alike, _⟩ := readKey_round_trip "GROUP_ID"
  exact ⟨read, spelled _ _ read, alike _ _ _ _ read read'⟩

end GroupKey
