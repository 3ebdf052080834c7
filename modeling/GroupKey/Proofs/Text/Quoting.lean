import GroupKey.Proofs.Text.Controls
import GroupKey.Proofs.Text.Legible
import GroupKey.Proofs.Text.SmallLetters
import Mathlib.Data.List.Nodup

/-!
# What stands between quotes

A quoted form is made of marks, each for a character or for a byte that belongs to none. Where a
mark begins with a backslash, the character behind this tells how it goes on; any other mark is the
character that it stands for. No mark begins with the quote, so the first that is not part of a mark
ends the form.

* `Escaped`: the forms of marks, one case for each;
* `Escaped.unique`: marks are told apart, and show where they end;
* `legible_char`, `legible_text`, `legible_bytes`: so are quoted characters, texts and raw bytes.
-/

namespace GroupKey.Quoted

open Text Utf8

inductive Mark where
  | char (c : Char)
  /-- A byte that belongs to no character. -/
  | byte (b : UInt8)
  deriving DecidableEq, Repr

def Mark.bytes : Mark → Bytes
  | .char c => String.utf8EncodeChar c
  | .byte b => [b]

def Mark.form (quote : Char) : Mark → List Char
  | .char c => escape quote c
  | .byte b => escapeByte b

/-- The letters behind a backslash, with the characters that they name. -/
def shortNames (quote : Char) : List (Char × Char) :=
  [('0', '\x00'), ('t', '\t'), ('r', '\r'), ('n', '\n'), (backslash, backslash), (quote, quote)]

/-- The forms of marks: a character that stands for itself, one that is named by a letter, one that
is given by its number, and a byte. -/
inductive Escaped (quote : Char) : Mark → List Char → Prop
  | plain {c : Char} (other : c ≠ backslash) (inside : c ≠ quote) : Escaped quote (.char c) [c]
  | named {letter c : Char} (short : (letter, c) ∈ shortNames quote) :
      Escaped quote (.char c) [backslash, letter]
  | numbered (c : Char) : Escaped quote (.char c) (numbered c)
  | byte (b : UInt8) : Escaped quote (.byte b) (escapeByte b)

theorem escaped_form (quote : Char) (mark : Mark) : Escaped quote mark (mark.form quote) := by
  cases mark with
  | byte b => exact .byte b
  | char c =>
    have by_letter {letter d : Char} (same : c = d) (short : (letter, d) ∈ shortNames quote) :
        Escaped quote (.char c) [backslash, letter] := .named (same ▸ short)
    rw [Mark.form, escape]
    split
    · next same => exact by_letter same (by simp [shortNames])
    split
    · next same => exact by_letter same (by simp [shortNames])
    split
    · next same => exact by_letter same (by simp [shortNames])
    split
    · next same => exact by_letter same (by simp [shortNames])
    split
    · next special => exact .named (by rcases special with rfl | rfl <;> simp [shortNames])
    next ordinary =>
    split
    · exact .numbered c
    · exact .plain (fun same => ordinary (.inl same)) (fun same => ordinary (.inr same))

def IsQuote (quote : Char) : Prop := quote = single ∨ quote = double

/-- A letter behind a backslash names one character, and is none of those that announce a number. -/
theorem shortNames_unique {quote letter c d : Char} (used : IsQuote quote)
    (short : (letter, c) ∈ shortNames quote) :
    ((letter, d) ∈ shortNames quote → c = d) ∧ letter ≠ 'u' ∧ letter ≠ 'x' := by
  obtain ⟨distinct, no_u, no_x⟩ : ((shortNames quote).map Prod.fst).Nodup ∧
      'u' ∉ (shortNames quote).map Prod.fst ∧ 'x' ∉ (shortNames quote).map Prod.fst := by
    rcases used with rfl | rfl <;> decide
  have listed : letter ∈ (shortNames quote).map Prod.fst := List.mem_map_of_mem short
  refine ⟨fun short' => ?_, fun same => no_u (same ▸ listed), fun same => no_x (same ▸ listed)⟩
  exact congrArg Prod.snd (List.inj_on_of_nodup_map distinct short short' rfl)

theorem escapeByte_injective : Function.Injective escapeByte := by
  intro b b' same
  have capitals : ∀ m < 16, ∀ n < 16,
      (Nat.digitChar m).toUpper = (Nat.digitChar n).toUpper → m = n := by decide
  have small := b.toNat_lt
  have small' := b'.toNat_lt
  simp only [escapeByte, List.cons.injEq, and_true, true_and] at same
  have high := capitals _ (by omega) _ (by omega) same.1
  have low := capitals _ (by omega) _ (by omega) same.2
  exact UInt8.toNat_inj.mp (by omega)

theorem numbered_unique {c d : Char} {rest rest' : List Char}
    (same : numbered c ++ rest = numbered d ++ rest') : c = d ∧ rest = rest' := by
  simp only [numbered, List.append_assoc, List.cons_append, List.nil_append] at same
  have digits {e : Char} : ∀ digit ∈ Nat.toDigits 16 e.toNat, (digit != '\x7d') = true := by
    intro digit listed
    have all : ∀ value < 16, (Nat.digitChar value != '\x7d') = true := by decide
    obtain ⟨value, bound, rfl⟩ := exists_digit_of_mem (by omega) listed
    exact all value bound
  have stop {r : List Char} : ∀ e ∈ ('\x7d' :: r).head?, (e != '\x7d') = false := by
    intro e first
    cases first
    rfl
  have behind := (List.cons.inj (List.cons.inj (List.cons.inj same).2).2).2
  obtain ⟨number, follows⟩ := append_inj_of_stop (· != '\x7d') digits digits stop stop behind
  exact ⟨Char.toNat_inj.mp (toDigits_injective (by omega) (by omega) number),
    (List.cons.inj follows).2⟩

variable {quote : Char} {mark mark' : Mark} {form form' rest rest' : List Char}

theorem ne_of_backslash {c : Char} (other : c ≠ backslash) :
    [c] ++ rest ≠ backslash :: form' ++ rest' :=
  fun same => other (List.cons.inj same).1

/-- **Marks are told apart, and show where they end**, whatever follows. -/
theorem Escaped.unique (used : IsQuote quote) (h : Escaped quote mark form)
    (h' : Escaped quote mark' form') (same : form ++ rest = form' ++ rest') :
    mark = mark' ∧ rest = rest' := by
  have second {c d : Char} {r r' : List Char} (same : backslash :: c :: r = backslash :: d :: r') :
      c = d := (List.cons.inj (List.cons.inj same).2).1
  cases h with
  | @plain c other _ =>
    cases h' with
    | @plain d _ _ =>
      obtain ⟨char, follows⟩ := List.cons.inj same
      exact ⟨congrArg Mark.char char, follows⟩
    | named _ => exact absurd same (ne_of_backslash other)
    | numbered d => exact absurd same (ne_of_backslash other)
    | byte b => exact absurd same (ne_of_backslash other)
  | @named letter c short =>
    obtain ⟨_, no_number, no_byte⟩ := shortNames_unique (d := c) used short
    cases h' with
    | plain other' _ => exact absurd same.symm (ne_of_backslash other')
    | @named letter' d short' =>
      have letters : letter = letter' := second same
      rw [← letters] at short'
      have char := (shortNames_unique used short).1 short'
      exact ⟨congrArg Mark.char char, (List.cons.inj (List.cons.inj same).2).2⟩
    | numbered d => exact absurd (second same) no_number
    | byte b => exact absurd (second same) no_byte
  | numbered c =>
    cases h' with
    | plain other' _ => exact absurd same.symm (ne_of_backslash other')
    | named short' => exact absurd (second same).symm (shortNames_unique (d := c) used short').2.1
    | numbered d =>
      obtain ⟨char, follows⟩ := numbered_unique same
      exact ⟨congrArg Mark.char char, follows⟩
    | byte b => exact absurd (second same) (by decide)
  | byte b =>
    cases h' with
    | plain other' _ => exact absurd same.symm (ne_of_backslash other')
    | named short' => exact absurd (second same).symm (shortNames_unique (d := ' ') used short').2.2
    | numbered d => exact absurd (second same) (by decide)
    | byte b' =>
      obtain ⟨forms, follows⟩ := List.append_inj same rfl
      exact ⟨congrArg Mark.byte (escapeByte_injective forms), follows⟩

theorem Escaped.front_ne (used : IsQuote quote) (h : Escaped quote mark form) :
    form ++ rest ≠ quote :: rest' := by
  have no_backslash : backslash ≠ quote := by rcases used with rfl | rfl <;> decide
  cases h with
  | plain _ inside => exact fun same => inside (List.cons.inj same).1
  | named _ => exact fun same => no_backslash (List.cons.inj same).1
  | numbered c => exact fun same => no_backslash (List.cons.inj same).1
  | byte b => exact fun same => no_backslash (List.cons.inj same).1

/-- **Marks up to the quote can be read back**, one by one. -/
theorem marks_unique (used : IsQuote quote) {marks marks' : List Mark}
    (same : marks.flatMap (Mark.form quote) ++ quote :: rest =
      marks'.flatMap (Mark.form quote) ++ quote :: rest') : marks = marks' ∧ rest = rest' := by
  induction marks generalizing marks' with
  | nil =>
    cases marks' with
    | nil => exact ⟨rfl, (List.cons.inj same).2⟩
    | cons mark' marks' =>
      rw [List.flatMap_cons, List.append_assoc] at same
      exact absurd same.symm ((escaped_form quote mark').front_ne used)
  | cons mark marks ih =>
    rw [List.flatMap_cons, List.append_assoc] at same
    cases marks' with
    | nil => exact absurd same ((escaped_form quote mark).front_ne used)
    | cons mark' marks' =>
      rw [List.flatMap_cons, List.append_assoc] at same
      obtain ⟨first, follows⟩ :=
        (escaped_form quote mark).unique used (escaped_form quote mark') same
      obtain ⟨others, last⟩ := ih follows
      exact ⟨by rw [first, others], last⟩

theorem legible_marks (used : IsQuote quote) :
    Legible fun marks : List Mark => quote :: marks.flatMap (Mark.form quote) ++ [quote] := by
  intro marks marks' rest rest' _ _ same
  simp only [List.cons_append, List.append_assoc, List.nil_append] at same
  exact marks_unique used (List.cons.inj same).2

/-! ## Quoted forms -/

theorem legible_char : Legible char := by
  have apart : Function.Injective fun c => [Mark.char c] := by
    intro c d same
    cases same
    rfl
  have one_mark : char = fun c => single :: [Mark.char c].flatMap (Mark.form single) ++ [single] := by
    funext c
    rw [List.flatMap_singleton]
    rfl
  rw [one_mark]
  exact (legible_marks (.inl rfl)).comp apart

/-- The marks of raw bytes: their characters, and the bytes that belong to none. -/
def marks (bs : Bytes) : List Mark :=
  (pieces bs).flatMap fun
    | .char c => [.char c]
    | .junk stray => stray.map .byte

/-- The marks stand for the very bytes that they are made from, wherever these are cut into
characters and junk. -/
theorem bytes_marks (bs : Bytes) : (marks bs).flatMap Mark.bytes = bs := by
  have piecewise : (marks bs).flatMap Mark.bytes = (pieces bs).flatMap Piece.bytes := by
    rw [marks, List.flatMap_assoc]
    congr 1
    funext piece
    cases piece with
    | char c => exact List.flatMap_singleton ..
    | junk stray =>
      rw [List.flatMap_map]
      exact List.flatMap_singleton' stray
  rw [piecewise, pieces_bytes]

theorem marks_injective : Function.Injective marks := by
  intro bs bs' same
  rw [← bytes_marks bs, same, bytes_marks]

theorem bytes_eq :
    bytes = fun bs => double :: (marks bs).flatMap (Mark.form double) ++ [double] := by
  funext bs
  have piecewise : (pieces bs).flatMap escapePiece = (marks bs).flatMap (Mark.form double) := by
    rw [marks, List.flatMap_assoc]
    congr 1
    funext piece
    cases piece with
    | char c => exact (List.flatMap_singleton ..).symm
    | junk stray =>
      rw [List.flatMap_map]
      rfl
  rw [bytes, piecewise]

/-- **Quoted bytes can be read back**, whatever bytes they are. -/
theorem legible_bytes : Legible bytes := by
  rw [bytes_eq]
  exact (legible_marks (.inr rfl)).comp marks_injective

theorem text_eq : text = fun s => bytes (encode s) := by
  funext s
  rw [text, bytes, pieces_encode, List.flatMap_map]
  rfl

theorem legible_text : Legible text := by
  rw [text_eq]
  exact legible_bytes.comp fun s t same => encode_injective same

end GroupKey.Quoted
