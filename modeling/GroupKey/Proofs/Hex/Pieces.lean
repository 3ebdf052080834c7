import GroupKey.Proofs.Hex.Reading

/-!
# Texts read piece by piece

A text can be cut between two pairs of digits and its pieces read one after the other, up to the
first that cannot be read. Places have to be counted on from one piece to the next. What is known
of the whole text alone is whether its length is odd, and that is reported before anything else.

* `decodePairs_append`: the pairs of two stretches, one behind the other;
* `readKey_append`: a text in two pieces of even length;
* `readPieces_eq`: a text in any number of such pieces;
* `readKey_in_pieces`: what each outcome of the pieces means for the whole.
-/

namespace GroupKey

namespace Hex

/-- A defect as it is reported where so many more bytes stand in front. -/
def Defect.behind (front : Nat) : Defect → Defect
  | .oddLength => .oddLength
  | .invalidLength => .invalidLength
  | .badDigit c index => .badDigit c (index + front)

theorem Defect.behind_behind (front more : Nat) (defect : Defect) :
    (defect.behind more).behind front = defect.behind (front + more) := by
  cases defect with
  | oddLength => rfl
  | invalidLength => rfl
  | badDigit c index =>
    have sum : index + more + front = index + (front + more) := by omega
    exact congrArg (Defect.badDigit c) sum

/-- Where pairs stand makes a difference to the places that are reported, and to nothing else. -/
theorem decodePairs_behind (front index : Nat) (text : Bytes) :
    decodePairs (front + index) text = (decodePairs index text).mapError (Defect.behind front) := by
  induction index, text using decodePairs.induct with
  | case1 index => rfl
  | case2 index head => rfl
  | case3 index high low rest no_high =>
    simp only [decodePairs, no_high, Except.mapError, Defect.atByte, Defect.behind]
    rw [Nat.add_comm front index]
  | case4 index high low rest h no_low is_high =>
    have place : front + index + 1 = index + 1 + front := by omega
    simp only [decodePairs, no_low, is_high, Except.mapError, Defect.atByte, Defect.behind, place]
  | case5 index high low rest h l is_low is_high ih =>
    simp only [decodePairs, is_low, is_high, Nat.add_assoc front index 2, ih]
    cases decodePairs (index + 2) rest <;> rfl

/-- **The pairs of two stretches, one behind the other.** Those of the first are read first, and
those of the second only if the first has no defect. -/
theorem decodePairs_append (index : Nat) {first : Bytes} (even : first.length % 2 = 0)
    (second : Bytes) :
    decodePairs index (first ++ second) =
      match decodePairs index first with
      | .error defect => .error defect
      | .ok bytes => (decodePairs (index + first.length) second).map (bytes ++ ·) := by
  induction index, first using decodePairs.induct with
  | case1 index =>
    simp only [decodePairs, List.nil_append, List.length_nil, Nat.add_zero]
    cases decodePairs index second <;> rfl
  | case2 index head => simp at even
  | case3 index high low rest no_high => simp [decodePairs, no_high]
  | case4 index high low rest h no_low is_high => simp [decodePairs, no_low, is_high]
  | case5 index high low rest h l is_low is_high ih =>
    rw [List.length_cons, List.length_cons] at even
    have further : index + 2 + rest.length = index + (high :: low :: rest).length := by
      rw [List.length_cons, List.length_cons]
      omega
    simp only [List.cons_append, decodePairs, is_low, is_high, ih (by omega), further]
    cases decodePairs (index + 2) rest with
    | error defect => rfl
    | ok bytes => cases decodePairs (index + (high :: low :: rest).length) second <;> rfl

end Hex

open Hex

def InputError.behind (front : Nat) : InputError → InputError
  | .missing name => .missing name
  | .notUnicode name => .notUnicode name
  | .notHex name defect => .notHex name (defect.behind front)

theorem InputError.behind_zero (error : InputError) : error.behind 0 = error := by
  cases error with
  | missing name => rfl
  | notUnicode name => rfl
  | notHex name defect => cases defect <;> rfl

theorem InputError.behind_behind (front more : Nat) (error : InputError) :
    (error.behind more).behind front = error.behind (front + more) := by
  cases error with
  | missing name => rfl
  | notUnicode name => rfl
  | notHex name defect => exact congrArg (InputError.notHex name) (defect.behind_behind front more)

/-- Reads the pieces of a text one after the other, up to the first that cannot be read. The first
of them has so many bytes of the text in front. -/
def readPieces (name : String) (front : Nat) : List String → Except InputError Bytes
  | [] => .ok []
  | piece :: rest =>
    match readKey name piece with
    | .error error => .error (error.behind front)
    | .ok bytes => (readPieces name (front + (Utf8.encode piece).length) rest).map (bytes ++ ·)

variable {a b : String}

theorem readKey_of_even (name : String) (even : (Utf8.encode a).length % 2 = 0) :
    readKey name a = (decodePairs 0 (Utf8.encode a)).mapError (.notHex name) := by
  have not_odd : ¬ (Utf8.encode a).length % 2 = 1 := by omega
  rw [readKey, decode]
  simp only [not_odd, if_false]

theorem length_append (a b : String) :
    (Utf8.encode (a ++ b)).length = (Utf8.encode a).length + (Utf8.encode b).length := by
  rw [Utf8.encode_append, List.length_append]

/-- **A text in two pieces of even length.** The first is read first, and the second only if the
first could be read. -/
theorem readKey_append (name : String) (even_a : (Utf8.encode a).length % 2 = 0)
    (even_b : (Utf8.encode b).length % 2 = 0) :
    readKey name (a ++ b) =
      match readKey name a with
      | .error error => .error error
      | .ok x =>
        ((readKey name b).mapError (InputError.behind (Utf8.encode a).length)).map (x ++ ·) := by
  have even : (Utf8.encode (a ++ b)).length % 2 = 0 := by
    rw [length_append]
    omega
  have shifted := decodePairs_behind (Utf8.encode a).length 0 (Utf8.encode b)
  rw [readKey_of_even name even, readKey_of_even name even_a, readKey_of_even name even_b,
    Utf8.encode_append, decodePairs_append 0 even_a, Nat.zero_add]
  rw [Nat.add_zero] at shifted
  rw [shifted]
  cases decodePairs 0 (Utf8.encode a) with
  | error defect => rfl
  | ok x => cases decodePairs 0 (Utf8.encode b) <;> rfl

theorem readKey_append_of_odd (name : String) (even : (Utf8.encode a).length % 2 = 0)
    (odd : (Utf8.encode b).length % 2 = 1) :
    readKey name (a ++ b) = .error (.notHex name .oddLength) := by
  apply readKey_of_odd
  rw [length_append]
  omega

theorem odd_of_readKey {name : String}
    (reported : readKey name b = .error (.notHex name .oddLength)) :
    (Utf8.encode b).length % 2 = 1 := by
  by_cases paired : Paired (Utf8.encode b)
  · obtain ⟨bytes, spells⟩ := exists_spells_iff.mpr paired
    rw [readKey_of_spells name spells] at reported
    cases reported
  · rcases fault_cases paired with odd | ⟨even, place, c, first⟩
    · exact odd
    · rw [readKey_of_firstFault name even first] at reported
      cases reported

theorem even_join {pieces : List String}
    (even : ∀ piece ∈ pieces, (Utf8.encode piece).length % 2 = 0) :
    (Utf8.encode (String.join pieces)).length % 2 = 0 := by
  induction pieces with
  | nil => rfl
  | cons piece rest ih =>
    have first := even piece List.mem_cons_self
    have others := ih fun other listed => even other (List.mem_cons_of_mem piece listed)
    rw [String.join_cons, length_append]
    omega

/-- **A text in any number of pieces of even length.** -/
theorem readPieces_eq (name : String) (front : Nat) {pieces : List String}
    (even : ∀ piece ∈ pieces, (Utf8.encode piece).length % 2 = 0) :
    readPieces name front pieces =
      (readKey name (String.join pieces)).mapError (InputError.behind front) := by
  induction pieces generalizing front with
  | nil => rfl
  | cons piece rest ih =>
    have even_rest : ∀ other ∈ rest, (Utf8.encode other).length % 2 = 0 :=
      fun other listed => even other (List.mem_cons_of_mem piece listed)
    rw [readPieces, String.join_cons,
      readKey_append name (even piece List.mem_cons_self) (even_join even_rest)]
    cases readKey name piece with
    | error error => rfl
    | ok x =>
      simp only [ih _ even_rest]
      cases readKey name (String.join rest) with
      | ok y => rfl
      | error error => exact congrArg Except.error (error.behind_behind _ _).symm

/-- **What the outcomes of its pieces mean for a text.** Where the first piece can be read, the
bytes of the second come behind its bytes, and a defect of the second is reported with the place
that it has in the whole. Where the first piece has a character that is no digit, this is reported,
unless the length of the whole is odd. Pieces of even length, as many as there are, are read one
after the other with the same bytes or the same defect as the whole. -/
theorem readKey_in_pieces (name : String) :
    (∀ a b : String, (Utf8.encode a).length % 2 = 0 →
      (∀ x, readKey name a = .ok x →
        (∀ y, readKey name b = .ok y → readKey name (a ++ b) = .ok (x ++ y)) ∧
        (∀ c index, readKey name b = .error (.notHex name (.badDigit c index)) →
          readKey name (a ++ b) =
            .error (.notHex name (.badDigit c (index + (Utf8.encode a).length)))) ∧
        (readKey name b = .error (.notHex name .oddLength) →
          readKey name (a ++ b) = .error (.notHex name .oddLength))) ∧
      ∀ c index, readKey name a = .error (.notHex name (.badDigit c index)) →
        ((Utf8.encode b).length % 2 = 0 →
          readKey name (a ++ b) = .error (.notHex name (.badDigit c index))) ∧
        ((Utf8.encode b).length % 2 = 1 →
          readKey name (a ++ b) = .error (.notHex name .oddLength))) ∧
    ∀ pieces : List String, (∀ piece ∈ pieces, (Utf8.encode piece).length % 2 = 0) →
      readPieces name 0 pieces = readKey name (String.join pieces) := by
  constructor
  · intro a b even_a
    have even_unless_odd {result : Except InputError Bytes} (read : readKey name b = result)
        (other : result ≠ .error (.notHex name .oddLength)) : (Utf8.encode b).length % 2 = 0 := by
      rcases Nat.mod_two_eq_zero_or_one (Utf8.encode b).length with even | odd
      · exact even
      · exact absurd (read.symm.trans (readKey_of_odd name odd)) other
    refine ⟨fun x read_a => ⟨?_, ?_, ?_⟩, fun c index read_a => ⟨?_, ?_⟩⟩
    · intro y read_b
      rw [readKey_append name even_a (even_unless_odd read_b (by simp)), read_a, read_b]
      rfl
    · intro c index read_b
      rw [readKey_append name even_a (even_unless_odd read_b (by simp)), read_a, read_b]
      rfl
    · intro read_b
      exact readKey_append_of_odd name even_a (odd_of_readKey read_b)
    · intro even_b
      rw [readKey_append name even_a even_b, read_a]
    · exact readKey_append_of_odd name even_a
  · intro pieces even
    rw [readPieces_eq name 0 even]
    cases readKey name (String.join pieces) with
    | ok bytes => rfl
    | error error => exact congrArg Except.error error.behind_zero

/-- A defect in the last of three pieces, and the same behind a defect that comes before it. -/
theorem readKey_in_pieces_of_three :
    readKey "GROUP_ID" ("dE" ++ "aDz0") = .error (.notHex "GROUP_ID" (.badDigit 'z' 4)) ∧
      readKey "GROUP_ID" ("é" ++ "aDz0") = .error (.notHex "GROUP_ID" (.badDigit 'Ã' 0)) ∧
      readPieces "GROUP_ID" 0 ["dE", "aD", "z0"] =
        .error (.notHex "GROUP_ID" (.badDigit 'z' 4)) := by
  obtain ⟨two, many⟩ := readKey_in_pieces "GROUP_ID"
  have even : ∀ piece ∈ ["dE", "aD", "z0"], (Utf8.encode piece).length % 2 = 0 := by decide
  have second : readKey "GROUP_ID" "aDz0" = .error (.notHex "GROUP_ID" (.badDigit 'z' 2)) := by
    decide
  have readable := (two "dE" "aDz0" (by decide)).1 [0xDE] (by decide)
  have faulty := (two "é" "aDz0" (by decide)).2 'Ã' 0 (by decide)
  exact ⟨readable.2.1 'z' 2 second, faulty.1 (by decide),
    (many ["dE", "aD", "z0"] even).trans (by decide)⟩

end GroupKey
