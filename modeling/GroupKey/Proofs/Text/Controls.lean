import GroupKey.Text.Numeral
import GroupKey.Text.Quoted

/-!
# Texts without control characters

A control character can end a line or move the cursor of a terminal, and so make a text look like
more than it is. Numbers and quoted forms have none, whatever they stand for.

* `not_control_of_mem_escape`: a character between quotes;
* `isPlain_char`, `isPlain_decimal`: quoted characters, and numbers.
-/

namespace GroupKey

namespace Text

/-- The control characters, in ASCII and beyond. -/
def IsControl (c : Char) : Prop := c.toNat < 0x20 ∨ 0x7F ≤ c.toNat ∧ c.toNat ≤ 0x9F

instance (c : Char) : Decidable (IsControl c) :=
  inferInstanceAs (Decidable (c.toNat < 0x20 ∨ 0x7F ≤ c.toNat ∧ c.toNat ≤ 0x9F))

/-- A text without control characters, and so without the end of a line. -/
def IsPlain (text : String) : Prop := ∀ c ∈ text.toList, ¬ IsControl c

instance (text : String) : Decidable (IsPlain text) :=
  List.decidableBAll (fun c => ¬ IsControl c) text.toList

@[simp]
theorem isPlain_append {a b : String} : IsPlain (a ++ b) ↔ IsPlain a ∧ IsPlain b := by
  simp only [IsPlain, String.toList_append, List.mem_append, or_imp, forall_and]

theorem isPlain_ofList {cs : List Char} :
    IsPlain (String.ofList cs) ↔ ∀ c ∈ cs, ¬ IsControl c := by
  rw [IsPlain, String.toList_ofList]

/-- Control characters leave no mark of their own: they are the first two ranges of those that do
not. -/
theorem isUnprintable_of_control {c : Char} (control : IsControl c) : isUnprintable c = true := by
  have front : unprintable = (0x0, 0x1F) :: (0x7F, 0xA0) :: unprintable.drop 2 := rfl
  rw [isUnprintable, front, inRanges, inRanges]
  rcases control with low | ⟨least, greatest⟩
  · have first : c.toNat ≤ 0x1F := by omega
    simp [first]
  · have second : c.toNat ≤ 0xA0 := by omega
    simp [Nat.not_lt.mpr least, second]

/-! ## Numbers -/

theorem exists_digit_of_mem {base n : Nat} (two : 1 < base) {c : Char}
    (listed : c ∈ Nat.toDigits base n) : ∃ digit < base, c = Nat.digitChar digit := by
  induction n using Nat.strongRecOn with
  | ind n ih =>
    rw [Nat.toDigits_eq_if two] at listed
    split at listed
    · next small => exact ⟨n, small, List.mem_singleton.mp listed⟩
    · rcases List.mem_append.mp listed with front | last
      · exact ih (n / base) (Nat.div_lt_self (by omega) two) front
      · exact ⟨n % base, Nat.mod_lt n (by omega), List.mem_singleton.mp last⟩

theorem not_control_of_mem_toDigits {base n : Nat} (two : 1 < base) (sixteen : base ≤ 16) {c : Char}
    (listed : c ∈ Nat.toDigits base n) : ¬ IsControl c := by
  have all : ∀ digit < 16, ¬ IsControl (Nat.digitChar digit) := by decide
  obtain ⟨digit, bound, rfl⟩ := exists_digit_of_mem two listed
  exact all digit (by omega)

theorem isPlain_decimal (n : Nat) : IsPlain (decimal n) :=
  isPlain_ofList.mpr fun _ listed => not_control_of_mem_toDigits (by omega) (by omega) listed

/-! ## Quoted forms -/

/-- **Between quotes there is no control character**, whatever is quoted. -/
theorem not_control_of_mem_escape {quote c d : Char} (plain : ¬ IsControl quote)
    (listed : d ∈ Quoted.escape quote c) : ¬ IsControl d := by
  have backslash : ¬ IsControl Quoted.backslash := by decide
  -- The short names differ in their letter alone.
  have named {letter : Char} (letter_plain : ¬ IsControl letter)
      (short : d ∈ [Quoted.backslash, letter]) : ¬ IsControl d := by
    simp only [List.mem_cons, List.not_mem_nil, or_false] at short
    rcases short with rfl | rfl
    · exact backslash
    · exact letter_plain
  unfold Quoted.escape at listed
  split at listed
  · exact named (by decide) listed
  split at listed
  · exact named (by decide) listed
  split at listed
  · exact named (by decide) listed
  split at listed
  · exact named (by decide) listed
  split at listed
  · next special =>
    rcases special with rfl | rfl
    · exact named backslash listed
    · exact named plain listed
  split at listed
  · have braces : ∀ e ∈ [Quoted.backslash, 'u', '\x7b', '\x7d'], ¬ IsControl e := by
      rw [← isPlain_ofList]
      decide
    simp only [Quoted.numbered, List.mem_append, List.mem_singleton] at listed
    rcases listed with (opening | number) | rfl
    · exact braces d (List.mem_append_left ['\x7d'] opening)
    · exact not_control_of_mem_toDigits (by omega) (by omega) number
    · exact braces _ (by decide)
  · next printable =>
    cases List.mem_singleton.mp listed
    exact fun control => printable (.inl (isUnprintable_of_control control))

theorem isPlain_char (c : Char) : IsPlain (String.ofList (Quoted.char c)) := by
  have quote : ¬ IsControl Quoted.single := by decide
  rw [isPlain_ofList]
  intro d listed
  simp only [Quoted.char, List.mem_append, List.mem_cons, List.not_mem_nil, or_false] at listed
  rcases listed with (rfl | inside) | rfl
  · exact quote
  · exact not_control_of_mem_escape quote inside
  · exact quote

end Text

end GroupKey
