import GroupKey.Text.Numeral
import GroupKey.Text.Spelled

/-!
# Forms that can be told apart

A value that is spelled out as a part of another has to show where it ends, or what follows could be
taken for a part of it. Numbers show it by ending before something that is no digit, and other
values by a mark of their own.

* `Legible`: a way of writing values that tells them apart and shows where each of them ends;
* `toDigits_injective`, `legible_decimal`: numbers;
* `legible_sequence`, `legible_record_one`, `legible_record_two`: sequences and records of legible
  values are legible.
-/

namespace GroupKey.Text

/-- What may follow a value: anything but a digit, which would look like a part of a number. -/
def Ends (rest : List Char) : Prop := ∀ c ∈ rest.head?, c.isDigit = false

theorem ends_nil : Ends [] := fun _ none_first => nomatch none_first

theorem ends_cons {c : Char} {rest : List Char} (mark : c.isDigit = false) : Ends (c :: rest) := by
  intro d first
  cases first
  exact mark

/-- A way of writing values that tells them apart and shows where each of them ends. -/
def Legible {α : Type} (write : α → List Char) : Prop :=
  ∀ ⦃a b : α⦄ ⦃rest rest' : List Char⦄, Ends rest → Ends rest' →
    write a ++ rest = write b ++ rest' → a = b ∧ rest = rest'

variable {α β : Type} {write : α → List Char} {more : β → List Char}

theorem Legible.injective (legible : Legible write) : Function.Injective write := by
  intro a b same
  have whole : write a ++ [] = write b ++ [] := by rw [same]
  exact (legible ends_nil ends_nil whole).1

theorem Legible.comp (legible : Legible write) {f : β → α} (apart : Function.Injective f) :
    Legible fun b => write (f b) := by
  intro a b rest rest' ends ends' same
  obtain ⟨value, follows⟩ := legible ends ends' same
  exact ⟨apart value, follows⟩

theorem Legible.after (legible : Legible write) (front : List Char) :
    Legible fun a => front ++ write a := by
  intro a b rest rest' ends ends' same
  simp only [List.append_assoc] at same
  exact legible ends ends' (List.append_cancel_left same)

theorem Legible.before (legible : Legible write) (mark : Char) (no_digit : mark.isDigit = false)
    (back : List Char) : Legible fun a => write a ++ mark :: back := by
  intro a b rest rest' _ _ same
  simp only [List.append_assoc, List.cons_append] at same
  obtain ⟨value, follows⟩ := legible (ends_cons no_digit) (ends_cons no_digit) same
  exact ⟨value, List.append_cancel_left (List.cons.inj follows).2⟩

theorem Legible.pair (legible : Legible write) (legible' : Legible more) (mark : Char)
    (no_digit : mark.isDigit = false) (between : List Char) :
    Legible fun p : α × β => write p.1 ++ (mark :: between ++ more p.2) := by
  rintro ⟨a, b⟩ ⟨a', b'⟩ rest rest' ends ends' same
  simp only [List.append_assoc, List.cons_append] at same
  obtain ⟨first, follows⟩ := legible (ends_cons no_digit) (ends_cons no_digit) same
  obtain ⟨second, last⟩ :=
    legible' ends ends' (List.append_cancel_left (List.cons.inj follows).2)
  exact ⟨Prod.ext first second, last⟩

/-! ## Numbers -/

/-- A word ends where something follows that can be no part of a word. -/
theorem append_inj_of_stop (p : Char → Bool) {word word' rest rest' : List Char}
    (inside : ∀ c ∈ word, p c = true) (inside' : ∀ c ∈ word', p c = true)
    (stop : ∀ c ∈ rest.head?, p c = false) (stop' : ∀ c ∈ rest'.head?, p c = false)
    (same : word ++ rest = word' ++ rest') : word = word' ∧ rest = rest' := by
  have taken {w r : List Char} (all : ∀ c ∈ w, p c = true) (none_more : ∀ c ∈ r.head?, p c = false) :
      (w ++ r).takeWhile p = w := by
    rw [List.takeWhile_append_of_pos all]
    cases r with
    | nil => rw [List.takeWhile_nil, List.append_nil]
    | cons c r => rw [List.takeWhile_cons, none_more c rfl, if_neg Bool.false_ne_true, List.append_nil]
  have words : word = word' := by
    rw [← taken inside stop, same, taken inside' stop']
  rw [words] at same
  exact ⟨words, List.append_cancel_left same⟩

theorem digitChar_injOn {m n : Nat} (small : m < 16) (small' : n < 16)
    (same : Nat.digitChar m = Nat.digitChar n) : m = n := by
  have all : ∀ m < 16, ∀ n < 16, Nat.digitChar m = Nat.digitChar n → m = n := by decide
  exact all m small n small' same

/-- **Numbers are told apart by their digits.** -/
theorem toDigits_injective {base : Nat} (two : 1 < base) (sixteen : base ≤ 16) :
    Function.Injective (Nat.toDigits base) := by
  intro m
  induction m using Nat.strongRecOn with
  | ind m ih =>
    intro n same
    rw [Nat.toDigits_eq_if two, Nat.toDigits_eq_if (n := n) two] at same
    have positive {k : Nat} : 0 < (Nat.toDigits base k).length :=
      List.length_pos_iff.mpr Nat.toDigits_ne_nil
    have lengths := congrArg List.length same
    have last_m := Nat.mod_lt m (show base > 0 by omega)
    have last_n := Nat.mod_lt n (show base > 0 by omega)
    split at same
    · next small =>
      split at same
      · next small' =>
        exact digitChar_injOn (by omega) (by omega) (List.cons.inj same).1
      · next large' =>
        have front := positive (k := n / base)
        rw [if_pos small, if_neg large', List.length_append] at lengths
        simp only [List.length_singleton] at lengths
        omega
    · next large =>
      split at same
      · next small' =>
        have front := positive (k := m / base)
        rw [if_neg large, if_pos small', List.length_append] at lengths
        simp only [List.length_singleton] at lengths
        omega
      · next large' =>
        -- The last digit is the remainder, and those before it are the digits of the quotient.
        obtain ⟨front, last⟩ := List.append_inj' same rfl
        have quotient := ih (m / base) (Nat.div_lt_self (by omega) two) front
        have remainder := digitChar_injOn (by omega) (by omega) (List.cons.inj last).1
        rw [← Nat.div_add_mod m base, quotient, remainder, Nat.div_add_mod]

theorem legible_decimal : Legible fun n => (decimal n).toList := by
  intro m n rest rest' ends ends' same
  simp only [decimal, String.toList_ofList] at same
  have digits (k : Nat) : ∀ c ∈ Nat.toDigits 10 k, c.isDigit = true :=
    fun c listed => Nat.isDigit_of_mem_toDigits (by omega) (by omega) listed
  obtain ⟨number, follows⟩ := append_inj_of_stop Char.isDigit (digits m) (digits n) ends ends' same
  exact ⟨toDigits_injective (by omega) (by omega) number, follows⟩

/-! ## Sequences and records -/

def listed (write : α → List Char) (items : List α) : List Char :=
  items.flatMap fun a => Spelled.comma ++ write a

theorem intercalate_eq (a : α) (items : List α) :
    Spelled.comma.intercalate ((a :: items).map write) = write a ++ listed write items := by
  induction items generalizing a with
  | nil => rw [List.map_singleton, List.intercalate_singleton, listed, List.flatMap_nil,
      List.append_nil]
  | cons b items ih =>
    rw [List.map_cons, List.map_cons, List.intercalate_cons_cons, ← List.map_cons, ih, listed,
      listed, List.flatMap_cons, List.append_assoc, List.append_assoc]

/-- Behind a value of a sequence stands a comma or the end of the sequence. -/
theorem ends_listed (items : List α) (rest : List Char) :
    Ends (listed write items ++ ']' :: rest) := by
  cases items with
  | nil => exact ends_cons rfl
  | cons a items => exact ends_cons rfl

theorem listed_inj (legible : Legible write) {items items' : List α} {rest rest' : List Char}
    (same : listed write items ++ ']' :: rest = listed write items' ++ ']' :: rest') :
    items = items' ∧ rest = rest' := by
  induction items generalizing items' with
  | nil =>
    cases items' with
    | nil => exact ⟨rfl, (List.cons.inj same).2⟩
    | cons b items' => exact absurd (List.cons.inj same).1 (by decide)
  | cons a items ih =>
    cases items' with
    | nil => exact absurd (List.cons.inj same).1 (by decide)
    | cons b items' =>
      simp only [listed, List.flatMap_cons, List.append_assoc] at same
      obtain ⟨value, follows⟩ := legible (ends_listed items rest) (ends_listed items' rest')
        (List.append_cancel_left same)
      obtain ⟨others, last⟩ := ih follows
      exact ⟨by rw [value, others], last⟩

/-- A sequence is legible if its items are, and none of them begins like the end of one. -/
theorem legible_sequence (legible : Legible write)
    (begins : ∀ a, ∃ c more, write a = c :: more ∧ c ≠ ']') :
    Legible fun items : List α => Spelled.sequence (items.map write) := by
  intro items items' rest rest' _ _ same
  simp only [Spelled.sequence, List.cons_append, List.append_assoc, List.nil_append] at same
  have inside := (List.cons.inj same).2
  -- An empty sequence ends where another has its first item.
  have not_empty {a : α} {others : List α} {r r' : List Char} :
      ']' :: r ≠ Spelled.comma.intercalate ((a :: others).map write) ++ r' := by
    obtain ⟨c, more, front, other⟩ := begins a
    rw [intercalate_eq, front]
    exact fun same => other (List.cons.inj same).1.symm
  cases items with
  | nil =>
    cases items' with
    | nil => exact ⟨rfl, (List.cons.inj inside).2⟩
    | cons b items' => exact absurd inside not_empty
  | cons a items =>
    cases items' with
    | nil => exact absurd inside.symm not_empty
    | cons b items' =>
      rw [intercalate_eq, intercalate_eq, List.append_assoc, List.append_assoc] at inside
      obtain ⟨value, follows⟩ :=
        legible (ends_listed items rest) (ends_listed items' rest') inside
      obtain ⟨others, last⟩ := listed_inj legible follows
      exact ⟨by rw [value, others], last⟩

theorem legible_record_one (legible : Legible write) (name part : String) :
    Legible fun a => Spelled.record name [Spelled.part part (write a)] := by
  have closed := (legible.before ' ' rfl ['\x7d']).after
    (name.toList ++ [' ', '\x7b', ' '] ++ part.toList ++ [':', ' '])
  simpa only [Spelled.record, Spelled.part, List.intercalate_singleton, List.append_assoc] using
    closed

theorem legible_record_two (legible : Legible write) (legible' : Legible more)
    (name first second : String) :
    Legible fun p : α × β =>
      Spelled.record name [Spelled.part first (write p.1), Spelled.part second (more p.2)] := by
  have closed := ((legible.pair legible' ',' rfl
    ([' '] ++ second.toList ++ [':', ' '])).before ' ' rfl ['\x7d']).after
    (name.toList ++ [' ', '\x7b', ' '] ++ first.toList ++ [':', ' '])
  simpa only [Spelled.record, Spelled.part, Spelled.comma, List.intercalate_cons_cons,
    List.intercalate_singleton, List.append_assoc, List.cons_append, List.nil_append] using closed

end GroupKey.Text
