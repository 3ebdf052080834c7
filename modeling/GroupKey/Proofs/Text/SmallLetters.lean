import GroupKey.Proofs.Text.WellFormed

/-!
# Small letters, byte by byte

* `encode_toLower`: the bytes of a text in small letters are those of the text, each ASCII capital
  made small.
-/

namespace GroupKey.Utf8

/-- A byte in small letters, if it is an ASCII letter. -/
def small (b : UInt8) : UInt8 := if 0x41 ≤ b.toNat ∧ b.toNat ≤ 0x5A then b + 0x20 else b

theorem small_of_high {b : UInt8} (high : 0x80 ≤ b.toNat) : small b = b := if_neg (by omega)

theorem utf8EncodeChar_high {c : Char} (beyond : ¬ c.toNat < 0x80) {b : UInt8}
    (listed : b ∈ String.utf8EncodeChar c) : 0x80 ≤ b.toNat := by
  have character := character_utf8EncodeChar c
  generalize whole : String.utf8EncodeChar c = bytes at character listed
  cases character with
  | one first =>
    rw [← utf8EncodeChar_one first] at whole
    have number : c.toNat = _ := congrArg Char.toNat (utf8EncodeChar_injective whole)
    rw [toNat_ofNat_byte] at number
    omega
  | two first second =>
    simp only [List.mem_cons, List.not_mem_nil, or_false] at listed
    rcases listed with rfl | rfl
    · omega
    · exact second.1
  | three first second third =>
    simp only [List.mem_cons, List.not_mem_nil, or_false] at listed
    rcases listed with rfl | rfl | rfl
    · omega
    · exact second.1
    · exact third.1
  | four first second third fourth =>
    simp only [List.mem_cons, List.not_mem_nil, or_false] at listed
    rcases listed with rfl | rfl | rfl | rfl
    · omega
    · exact second.1
    · exact third.1
    · exact fourth.1

theorem toLower_of_high {c : Char} (beyond : ¬ c.toNat < 0x80) : c.toLower = c := by
  unfold Char.toLower
  rw [dif_neg]
  rintro ⟨_, below⟩
  have bound : c.toNat ≤ 0x5A := UInt32.le_iff_toNat_le.mp below
  omega

theorem utf8EncodeChar_toLower (c : Char) :
    String.utf8EncodeChar c.toLower = (String.utf8EncodeChar c).map small := by
  by_cases ascii : c.toNat < 0x80
  · have all : ∀ n < 0x80, String.utf8EncodeChar (Char.ofNat n).toLower =
        (String.utf8EncodeChar (Char.ofNat n)).map small := by decide
    have this := all c.toNat ascii
    rwa [Char.ofNat_toNat] at this
  · have kept : (String.utf8EncodeChar c).map small = (String.utf8EncodeChar c).map id :=
      List.map_congr_left fun b listed => small_of_high (utf8EncodeChar_high ascii listed)
    rw [toLower_of_high ascii, kept, List.map_id]

theorem toList_toLower (text : String) : text.toLower.toList = text.toList.map Char.toLower :=
  String.toList_map

theorem encode_toLower (text : String) : encode text.toLower = (encode text).map small := by
  rw [encode, encode, toList_toLower, List.flatMap_map, List.map_flatMap]
  simp only [utf8EncodeChar_toLower]

theorem encode_injective {text other : String} (same : encode text = encode other) :
    text = other := by
  have read := decode?_eq_some_iff.mpr same
  rw [decode?_eq_some_iff.mpr rfl] at read
  exact (Option.some.inj read).symm

end GroupKey.Utf8
