import GroupKey.Proofs.Hex.Reading

/-!
# Characters that are no digits

What is wrong with a text is found byte by byte, while a reader of it sees characters. The first
byte that is no digit begins the first character that is none, since every byte of the digits
before it is a character of its own. The byte is reported as the character that has its number,
which for characters of several bytes is another one, with one exception.

* `firstByte_of_high`: the first byte of a character beyond ASCII;
* `firstFault_of_character`: where the first character that is no digit begins, the first byte is
  that is none;
* `readKey_locates_character`: where and as what such a character is reported.
-/

namespace GroupKey

namespace Utf8

theorem toNat_ofNat_ascii {c : Char} (ascii : c.toNat < 0x80) :
    (UInt8.ofNat c.toNat).toNat = c.toNat := by
  rw [UInt8.toNat_ofNat']
  omega

theorem utf8EncodeChar_ascii {c : Char} (ascii : c.toNat < 0x80) :
    String.utf8EncodeChar c = [UInt8.ofNat c.toNat] := by
  have number := toNat_ofNat_ascii ascii
  have spelled := utf8EncodeChar_one (a := UInt8.ofNat c.toNat) (by omega)
  rwa [number, Char.ofNat_toNat] at spelled

/-- A text takes as many bytes as its positions count. -/
theorem length_encode (text : String) : (encode text).length = text.utf8ByteSize := by
  conv => rhs; rw [← String.ofList_toList (s := text)]
  rw [← String.size_toByteArray, String.toByteArray_ofList, List.utf8Encode, List.size_toByteArray,
    encode]

/-- **The first byte of a character beyond ASCII** is neither ASCII nor one that can only continue a
character. It has the number of the character itself in one case alone. -/
theorem firstByte_of_high {c : Char} (high : 0x80 ≤ c.toNat) :
    ∃ b rest, String.utf8EncodeChar c = b :: rest ∧ 0xC2 ≤ b.toNat ∧ b.toNat ≤ 0xF4 ∧
      (b.toNat = c.toNat ↔ c.toNat = 0xC3) := by
  have valid := c.valid
  unfold UInt32.isValidChar Nat.isValidChar at valid
  unfold Char.toNat at high ⊢
  unfold String.utf8EncodeChar
  extract_lets v
  have same : v = c.val.toNat := rfl
  split
  · omega
  split
  · have first : (UInt8.ofNat (v / 64 % 32 + 0xC0)).toNat = v / 64 + 0xC0 := by
      rw [UInt8.toNat_ofNat']
      omega
    refine ⟨_, _, rfl, ?_⟩
    rw [first]
    omega
  split
  · exact ⟨_, _, rfl, by rw [UInt8.toNat_ofNat']; omega⟩
  · exact ⟨_, _, rfl, by rw [UInt8.toNat_ofNat']; omega⟩

end Utf8

namespace Hex

def IsDigitChar (c : Char) : Prop := c ∈ "0123456789abcdefABCDEF".toList

instance (c : Char) : Decidable (IsDigitChar c) :=
  inferInstanceAs (Decidable (c ∈ "0123456789abcdefABCDEF".toList))

theorem IsDigitChar.ascii {c : Char} (digit : IsDigitChar c) : c.toNat < 0x80 := by
  have all : "0123456789abcdefABCDEF".toList.all (·.toNat < 0x80) = true := by decide
  exact of_decide_eq_true (List.all_eq_true.mp all c digit)

theorem isDigit_firstByte_iff {c : Char} {b : UInt8} {rest : Bytes}
    (spelled : String.utf8EncodeChar c = b :: rest) : IsDigit b ↔ IsDigitChar c := by
  by_cases ascii : c.toNat < 0x80
  · have all : ∀ n < 0x80,
        (digit? (UInt8.ofNat n)).isSome = decide (IsDigitChar (Char.ofNat n)) := by
      decide +kernel
    have this := all c.toNat ascii
    rw [Utf8.utf8EncodeChar_ascii ascii] at spelled
    cases spelled
    rw [Char.ofNat_toNat] at this
    rw [← decide_eq_true_iff (p := IsDigitChar c), ← this, Option.isSome_iff_ne_none, ne_eq,
      digit?_eq_none_iff, not_not]
  · obtain ⟨first, _, spelled', least, _⟩ := Utf8.firstByte_of_high (Nat.not_lt.mp ascii)
    rw [spelled'] at spelled
    cases spelled
    refine iff_of_false (fun digit => ?_) (fun digit => ascii digit.ascii)
    have bound := (isDigit_bounds digit).2
    omega

theorem length_of_digits {digits : List Char} (all : ∀ c ∈ digits, IsDigitChar c) :
    (digits.flatMap String.utf8EncodeChar).length = digits.length := by
  induction digits with
  | nil => rfl
  | cons c digits ih =>
    have one := Utf8.utf8EncodeChar_ascii (all c List.mem_cons_self).ascii
    rw [List.flatMap_cons, one, List.singleton_append, List.length_cons, List.length_cons,
      ih fun d listed => all d (List.mem_cons_of_mem c listed)]

/-- **Where the first character that is no digit begins, the first byte is that is none.** -/
theorem firstFault_of_character {before after : List Char} {c : Char} {b : UInt8} {rest : Bytes}
    (digits : ∀ d ∈ before, IsDigitChar d) (other : ¬ IsDigitChar c)
    (spelled : String.utf8EncodeChar c = b :: rest) :
    FirstFault ((before ++ c :: after).flatMap String.utf8EncodeChar) before.length b := by
  induction before with
  | nil =>
    rw [List.nil_append, List.flatMap_cons, spelled]
    exact firstFault_of_fault _ fun digit => other ((isDigit_firstByte_iff spelled).mp digit)
  | cons d before ih =>
    have digit := digits d List.mem_cons_self
    have one := Utf8.utf8EncodeChar_ascii digit.ascii
    rw [List.cons_append, List.flatMap_cons, one, List.singleton_append]
    exact (ih fun e listed => digits e (List.mem_cons_of_mem d listed)).cons
      ((isDigit_firstByte_iff one).mpr digit)

structure FirstOther (text : String) (before : List Char) (c : Char) (after : List Char) :
    Prop where
  split : text.toList = before ++ c :: after
  digits : ∀ d ∈ before, IsDigitChar d
  other : ¬ IsDigitChar c

theorem exists_firstOther {text : String} (h : ∃ c ∈ text.toList, ¬ IsDigitChar c) :
    ∃ before c after, FirstOther text before c after := by
  obtain ⟨c, listed, other⟩ := h
  have some_found : (text.toList.find? fun d => !decide (IsDigitChar d)).isSome := by
    rw [List.find?_isSome]
    exact ⟨c, listed, by simpa using other⟩
  obtain ⟨first, found⟩ := Option.isSome_iff_exists.mp some_found
  obtain ⟨no_digit, before, after, split, digits⟩ := List.find?_eq_some_iff_append.mp found
  exact ⟨before, first, after, split, by simpa using digits, by simpa using no_digit⟩

theorem FirstOther.length_bytes {text : String} {before after : List Char} {c : Char}
    (first : FirstOther text before c after) :
    (Utf8.encode (String.ofList before)).length = before.length := by
  rw [Utf8.encode, String.toList_ofList]
  exact length_of_digits first.digits

/-- The place of the first other character, counted in bytes, is between two characters. -/
theorem FirstOther.isValid {text : String} {before after : List Char} {c : Char}
    (first : FirstOther text before c after) : (String.Pos.Raw.mk before.length).IsValid text := by
  refine String.Pos.Raw.isValid_iff_exists_append.mpr
    ⟨String.ofList before, String.ofList (c :: after), ?_, ?_⟩
  · rw [← String.ofList_append, ← first.split, String.ofList_toList]
  · have bytes := first.length_bytes
    rw [Utf8.length_encode] at bytes
    exact String.Pos.Raw.ext bytes.symm

/-- What a character that is no digit is reported as: itself if it is ASCII, and else the character
with the number of its first byte. -/
structure ReportedAs (c reported : Char) : Prop where
  ascii : c.toNat < 0x80 → reported = c
  high : 0x80 ≤ c.toNat → ∃ b rest, String.utf8EncodeChar c = b :: rest ∧
    reported.toNat = b.toNat ∧ 0xC2 ≤ reported.toNat ∧ reported.toNat ≤ 0xF4
  differs : reported ≠ c ↔ 0x80 ≤ c.toNat ∧ c.toNat ≠ 0xC3

theorem reportedAs_firstByte (c : Char) :
    ∃ b rest, String.utf8EncodeChar c = b :: rest ∧ ReportedAs c (Char.ofNat b.toNat) := by
  by_cases ascii : c.toNat < 0x80
  · refine ⟨_, _, Utf8.utf8EncodeChar_ascii ascii, ?_⟩
    rw [Utf8.toNat_ofNat_ascii ascii, Char.ofNat_toNat]
    exact ⟨fun _ => rfl, fun high => absurd ascii (by omega), by simp; omega⟩
  · have high := Nat.not_lt.mp ascii
    obtain ⟨b, rest, spelled, least, greatest, same⟩ := Utf8.firstByte_of_high high
    have number := Utf8.toNat_ofNat_byte b
    refine ⟨b, rest, spelled, fun below => absurd below ascii, fun _ => ⟨b, rest, spelled, ?_⟩, ?_⟩
    · omega
    · rw [ne_eq, ← Char.toNat_inj, number, same]
      exact (and_iff_right high).symm

end Hex

open Hex

/-- **Where and as what a character that is no digit is reported.** The first such character of a
text with an even number of bytes is reported with the number of characters before it. This is the
number of bytes before it too, so it never falls inside a character. An ASCII character is reported
as itself, and any other as the character with the number of its first byte, which is another one
unless it is U+00C3. -/
theorem readKey_locates_character (name value : String)
    (even : (Utf8.encode value).length % 2 = 0) (other : ∃ c ∈ value.toList, ¬ IsDigitChar c) :
    ∃ before c after reported, FirstOther value before c after ∧
      readKey name value = .error (.notHex name (.badDigit reported before.length)) ∧
      (Utf8.encode (String.ofList before)).length = before.length ∧
      (String.Pos.Raw.mk before.length).IsValid value ∧
      ReportedAs c reported := by
  obtain ⟨before, c, after, first⟩ := exists_firstOther other
  obtain ⟨b, rest, spelled, reported⟩ := reportedAs_firstByte c
  have fault : FirstFault (Utf8.encode value) before.length b := by
    rw [Utf8.encode, first.split]
    exact firstFault_of_character first.digits first.other spelled
  exact ⟨before, c, after, _, first, readKey_of_firstFault name even fault, first.length_bytes,
    first.isValid, reported⟩

/-- A character of three bytes behind a digit. -/
theorem readKey_locates_character_of_euro :
    (Utf8.encode "a€").length % 2 = 0 ∧ (∃ c ∈ "a€".toList, ¬ IsDigitChar c) ∧
      ∃ before c after reported, FirstOther "a€" before c after ∧
        readKey "GROUP_ID" "a€" = .error (.notHex "GROUP_ID" (.badDigit reported before.length)) ∧
        (Utf8.encode (String.ofList before)).length = before.length ∧
        (String.Pos.Raw.mk before.length).IsValid "a€" ∧
        ReportedAs c reported := by
  have even : (Utf8.encode "a€").length % 2 = 0 := by decide
  have other : ∃ c ∈ "a€".toList, ¬ IsDigitChar c := ⟨'€', by decide, by decide⟩
  exact ⟨even, other, readKey_locates_character "GROUP_ID" "a€" even other⟩

example : readKey "GROUP_ID" "a€" = .error (.notHex "GROUP_ID" (.badDigit 'â' 1)) := by decide

/-- The one character of several bytes that is reported as itself. -/
example : readKey "GROUP_ID" "Ã" = .error (.notHex "GROUP_ID" (.badDigit 'Ã' 0)) := by decide

end GroupKey
