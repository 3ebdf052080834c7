import GroupKey.Text.Utf8
import Mathlib.Data.List.Basic

/-!
# Which bytes spell text

* `WellFormed`: the grammar of UTF-8, a range of bytes at a time;
* `wellFormed_iff`: the grammar derives exactly the bytes of texts;
* `pieces_bytes`: no byte is lost when bytes are cut into characters and junk;
* `decode?_eq_some_iff`: the reader finds a text in exactly the bytes of that text.
-/

namespace GroupKey.Utf8

theorem encode_append (a b : String) : encode (a ++ b) = encode a ++ encode b := by
  simp [encode]

/-- A byte that can only continue a character. -/
def IsTail (b : UInt8) : Prop := 0x80 ≤ b.toNat ∧ b.toNat ≤ 0xBF

/-- The bytes of one character. What is shut out after the first byte are longer spellings of
characters that have a shorter one, surrogates, and numbers above 10FFFF. -/
inductive Character : Bytes → Prop
  | one {a : UInt8} (first : a.toNat ≤ 0x7F) : Character [a]
  | two {a b : UInt8} (first : 0xC2 ≤ a.toNat ∧ a.toNat ≤ 0xDF) (second : IsTail b) :
      Character [a, b]
  | three {a b c : UInt8} (first : 0xE0 ≤ a.toNat ∧ a.toNat ≤ 0xEF) (second : IsTail b)
      (third : IsTail c) (shortest : a.toNat = 0xE0 → 0xA0 ≤ b.toNat)
      (no_surrogate : a.toNat = 0xED → b.toNat ≤ 0x9F) : Character [a, b, c]
  | four {a b c d : UInt8} (first : 0xF0 ≤ a.toNat ∧ a.toNat ≤ 0xF4) (second : IsTail b)
      (third : IsTail c) (fourth : IsTail d) (shortest : a.toNat = 0xF0 → 0x90 ≤ b.toNat)
      (no_greater : a.toNat = 0xF4 → b.toNat ≤ 0x8F) : Character [a, b, c, d]

inductive WellFormed : Bytes → Prop
  | nil : WellFormed []
  | cons {character rest : Bytes} : Character character → WellFormed rest →
      WellFormed (character ++ rest)

/-! ## Characters and their bytes -/

theorem toNat_ofNat {n : Nat} (h : n.isValidChar) : (Char.ofNat n).val.toNat = n := by
  unfold Char.ofNat
  rw [dif_pos h]
  exact UInt32.toNat_ofNatLT ..

theorem toNat_ofNat_byte (b : UInt8) : (Char.ofNat b.toNat).toNat = b.toNat := by
  have small := b.toNat_lt
  exact toNat_ofNat (.inl (by omega))

theorem utf8EncodeChar_one {a : UInt8} (first : a.toNat ≤ 0x7F) :
    String.utf8EncodeChar (Char.ofNat a.toNat) = [a] := by
  unfold String.utf8EncodeChar
  rw [toNat_ofNat (.inl (by omega)), if_pos first, UInt8.ofNat_toNat]

theorem utf8EncodeChar_two {a b : UInt8} (first : 0xC2 ≤ a.toNat ∧ a.toNat ≤ 0xDF)
    (second : IsTail b) :
    String.utf8EncodeChar (Char.ofNat ((a.toNat - 0xC0) * 64 + (b.toNat - 0x80))) = [a, b] := by
  unfold IsTail at second
  unfold String.utf8EncodeChar
  rw [toNat_ofNat (.inl (by omega)), if_neg (by omega), if_pos (by omega)]
  simp only [List.cons.injEq, and_true]
  refine ⟨?_, ?_⟩ <;> apply UInt8.toNat_inj.mp <;> rw [UInt8.toNat_ofNat'] <;> omega

theorem utf8EncodeChar_three {a b c : UInt8} (first : 0xE0 ≤ a.toNat ∧ a.toNat ≤ 0xEF)
    (second : IsTail b) (third : IsTail c) (shortest : a.toNat = 0xE0 → 0xA0 ≤ b.toNat)
    (no_surrogate : a.toNat = 0xED → b.toNat ≤ 0x9F) :
    String.utf8EncodeChar
      (Char.ofNat (((a.toNat - 0xE0) * 64 + (b.toNat - 0x80)) * 64 + (c.toNat - 0x80))) =
        [a, b, c] := by
  unfold IsTail at second third
  unfold String.utf8EncodeChar
  rw [toNat_ofNat (by unfold Nat.isValidChar; omega), if_neg (by omega), if_neg (by omega),
    if_pos (by omega)]
  simp only [List.cons.injEq, and_true]
  refine ⟨?_, ?_, ?_⟩ <;> apply UInt8.toNat_inj.mp <;> rw [UInt8.toNat_ofNat'] <;> omega

theorem utf8EncodeChar_four {a b c d : UInt8} (first : 0xF0 ≤ a.toNat ∧ a.toNat ≤ 0xF4)
    (second : IsTail b) (third : IsTail c) (fourth : IsTail d)
    (shortest : a.toNat = 0xF0 → 0x90 ≤ b.toNat) (no_greater : a.toNat = 0xF4 → b.toNat ≤ 0x8F) :
    String.utf8EncodeChar
      (Char.ofNat ((((a.toNat - 0xF0) * 64 + (b.toNat - 0x80)) * 64 + (c.toNat - 0x80)) * 64 +
        (d.toNat - 0x80))) = [a, b, c, d] := by
  unfold IsTail at second third fourth
  unfold String.utf8EncodeChar
  rw [toNat_ofNat (.inr (by omega)), if_neg (by omega), if_neg (by omega), if_neg (by omega)]
  simp only [List.cons.injEq, and_true]
  refine ⟨?_, ?_, ?_, ?_⟩ <;> apply UInt8.toNat_inj.mp <;> rw [UInt8.toNat_ofNat'] <;> omega

theorem exists_char_of_character {bytes : Bytes} (h : Character bytes) :
    ∃ c, String.utf8EncodeChar c = bytes := by
  cases h with
  | one first => exact ⟨_, utf8EncodeChar_one first⟩
  | two first second => exact ⟨_, utf8EncodeChar_two first second⟩
  | three first second third shortest no_surrogate =>
    exact ⟨_, utf8EncodeChar_three first second third shortest no_surrogate⟩
  | four first second third fourth shortest no_greater =>
    exact ⟨_, utf8EncodeChar_four first second third fourth shortest no_greater⟩

theorem character_utf8EncodeChar (c : Char) : Character (String.utf8EncodeChar c) := by
  have valid := c.valid
  unfold UInt32.isValidChar Nat.isValidChar at valid
  unfold String.utf8EncodeChar
  extract_lets v
  split
  · exact .one (by rw [UInt8.toNat_ofNat']; omega)
  split
  · exact .two (by rw [UInt8.toNat_ofNat']; omega)
      (by unfold IsTail; rw [UInt8.toNat_ofNat']; omega)
  split
  · refine .three ?_ ?_ ?_ ?_ ?_ <;> simp only [IsTail, UInt8.toNat_ofNat'] <;> omega
  · refine .four ?_ ?_ ?_ ?_ ?_ ?_ <;> simp only [IsTail, UInt8.toNat_ofNat'] <;> omega

/-- **The grammar derives exactly the bytes of texts.** -/
theorem wellFormed_iff {bytes : Bytes} : WellFormed bytes ↔ ∃ text, encode text = bytes := by
  constructor
  · intro h
    induction h with
    | nil => exact ⟨"", rfl⟩
    | cons character _ ih =>
      obtain ⟨c, rfl⟩ := exists_char_of_character character
      obtain ⟨text, rfl⟩ := ih
      exact ⟨String.ofList [c] ++ text, by simp [encode]⟩
  · rintro ⟨text, rfl⟩
    unfold encode
    induction text.toList with
    | nil => exact .nil
    | cons c cs ih => exact .cons (character_utf8EncodeChar c) ih

/-! ## Reading a character -/

/-- Bytes that complete a character under way. -/
structure Fits (p : Pending) (tail : Bytes) : Prop where
  length : tail.length = p.after + 1
  first : ∀ b ∈ tail.head?, p.least ≤ b.toNat ∧ b.toNat ≤ p.greatest
  rest : ∀ b ∈ tail.tail, IsTail b

/-- The number of a character under way with the payload of some more bytes. -/
def Pending.total (p : Pending) (tail : Bytes) : Nat :=
  tail.foldl (fun n b => n * 64 + (b.toNat - 0x80)) p.value

/-- The character under way after one more byte, where `more` bytes follow. -/
def Pending.next (p : Pending) (b : UInt8) (more : Nat) : Pending :=
  ⟨p.read ++ [b], p.value * 64 + (b.toNat - 0x80), 0x80, 0xBF, more⟩

theorem total_next (p : Pending) (b : UInt8) (more : Nat) (tail : Bytes) :
    (p.next b more).total tail = p.total (b :: tail) := by
  rw [Pending.total, Pending.total, List.foldl_cons]
  rfl

theorem Fits.next {p : Pending} {b : UInt8} {tail : Bytes} {more : Nat}
    (h : Fits p (b :: tail)) (after : p.after = more + 1) : Fits (p.next b more) tail := by
  refine ⟨?_, ?_, ?_⟩
  · have := h.length
    rw [List.length_cons] at this
    simp only [Pending.next]
    omega
  · intro c hc
    cases tail with
    | nil => cases hc
    | cons c' rest =>
      cases hc
      exact h.rest c (by simp)
  · intro c hc
    exact h.rest c (List.mem_of_mem_tail hc)

theorem step_last {p : Pending} {b : UInt8} (range : p.least ≤ b.toNat ∧ b.toNat ≤ p.greatest)
    (after : p.after = 0) :
    step (some p) b = ([.char (Char.ofNat (p.value * 64 + (b.toNat - 0x80)))], none) := by
  unfold step
  simp only [range, and_self, if_true, after]

theorem step_next {p : Pending} {b : UInt8} {more : Nat}
    (range : p.least ≤ b.toNat ∧ b.toNat ≤ p.greatest) (after : p.after = more + 1) :
    step (some p) b = ([], some (p.next b more)) := by
  unfold step
  simp only [range, and_self, if_true, after]
  rfl

theorem step_else {p : Pending} {b : UInt8} (range : ¬ (p.least ≤ b.toNat ∧ b.toNat ≤ p.greatest)) :
    step (some p) b = (.junk p.read :: (lead b).1, (lead b).2) := by
  unfold step
  simp only [range, if_false]

theorem scan_of_fits {p : Pending} {tail : Bytes} (h : Fits p tail) (rest : Bytes) :
    scan (some p) (tail ++ rest) = .char (Char.ofNat (p.total tail)) :: scan none rest := by
  induction tail generalizing p with
  | nil => exact absurd h.length (by simp)
  | cons b tail ih =>
    have range := h.first b (by simp)
    rw [List.cons_append, scan]
    cases after : p.after with
    | zero =>
      have length := h.length
      rw [List.length_cons, after] at length
      have last : tail = [] := List.length_eq_zero_iff.mp (by omega)
      rw [step_last range after, last]
      rfl
    | succ more =>
      rw [step_next range after, ← total_next p b more]
      exact ih (h.next after)

/-! ## The first byte -/

theorem lead_one {a : UInt8} (first : a.toNat ≤ 0x7F) :
    lead a = ([.char (Char.ofNat a.toNat)], none) := by
  have ascii : a.toNat < 0x80 := by omega
  simp only [lead, ascii, if_true]

theorem lead_two {a : UInt8} (first : 0xC2 ≤ a.toNat ∧ a.toNat ≤ 0xDF) :
    lead a = ([], some ⟨[a], a.toNat - 0xC0, 0x80, 0xBF, 0⟩) := by
  unfold lead
  rw [if_neg (by omega), if_neg (by omega), if_pos (by omega)]

theorem lead_three {a : UInt8} (first : 0xE0 ≤ a.toNat ∧ a.toNat ≤ 0xEF) :
    lead a = ([], some ⟨[a], a.toNat - 0xE0, if a.toNat = 0xE0 then 0xA0 else 0x80,
      if a.toNat = 0xED then 0x9F else 0xBF, 1⟩) := by
  unfold lead
  rw [if_neg (by omega), if_neg (by omega), if_neg (by omega)]
  by_cases lowest : a.toNat = 0xE0
  · simp [lowest]
  · by_cases surrogates : a.toNat = 0xED
    · simp [surrogates]
    · rw [if_neg lowest, if_neg surrogates, if_pos (by omega), if_neg lowest, if_neg surrogates]

theorem lead_four {a : UInt8} (first : 0xF0 ≤ a.toNat ∧ a.toNat ≤ 0xF4) :
    lead a = ([], some ⟨[a], a.toNat - 0xF0, if a.toNat = 0xF0 then 0x90 else 0x80,
      if a.toNat = 0xF4 then 0x8F else 0xBF, 2⟩) := by
  unfold lead
  rw [if_neg (by omega), if_neg (by omega), if_neg (by omega), if_neg (by omega),
    if_neg (by omega), if_neg (by omega)]
  by_cases lowest : a.toNat = 0xF0
  · simp [lowest]
  · by_cases highest : a.toNat = 0xF4
    · simp [highest]
    · rw [if_neg lowest, if_pos (by omega), if_neg lowest, if_neg highest]

theorem lead_junk {a : UInt8}
    (first : 0x80 ≤ a.toNat ∧ a.toNat < 0xC2 ∨ 0xF4 < a.toNat) : lead a = ([.junk [a]], none) := by
  unfold lead
  by_cases low : a.toNat < 0xC2
  · rw [if_neg (by omega), if_pos low]
  · rw [if_neg (by omega), if_neg low, if_neg (by omega), if_neg (by omega), if_neg (by omega),
      if_neg (by omega), if_neg (by omega), if_neg (by omega), if_neg (by omega)]

/-! ## No byte is lost -/

/-- However a character under way is completed, its bytes are the ones that were read. -/
def Pending.Leads (p : Pending) : Prop :=
  ∀ tail, Fits p tail → String.utf8EncodeChar (Char.ofNat (p.total tail)) = p.read ++ tail

def State.read : State → Bytes
  | none => []
  | some p => p.read

def State.Sound : State → Prop
  | none => True
  | some p => p.Leads

theorem leads_two {a : UInt8} (first : 0xC2 ≤ a.toNat ∧ a.toNat ≤ 0xDF) :
    Pending.Leads ⟨[a], a.toNat - 0xC0, 0x80, 0xBF, 0⟩ := by
  intro tail fits
  obtain ⟨b, rfl⟩ := List.length_eq_one_iff.mp fits.length
  exact utf8EncodeChar_two first (fits.first b rfl)

theorem leads_three {a : UInt8} (first : 0xE0 ≤ a.toNat ∧ a.toNat ≤ 0xEF) :
    Pending.Leads ⟨[a], a.toNat - 0xE0, if a.toNat = 0xE0 then 0xA0 else 0x80,
      if a.toNat = 0xED then 0x9F else 0xBF, 1⟩ := by
  intro tail fits
  obtain ⟨b, c, rfl⟩ := List.length_eq_two.mp fits.length
  have range := fits.first b rfl
  simp only at range
  have second : IsTail b := by unfold IsTail; split at range <;> split at range <;> omega
  refine utf8EncodeChar_three first second (fits.rest c (by simp)) (fun lowest => ?_)
    (fun surrogates => ?_)
  · rw [if_pos lowest] at range
    exact range.1
  · rw [if_pos surrogates] at range
    exact range.2

theorem leads_four {a : UInt8} (first : 0xF0 ≤ a.toNat ∧ a.toNat ≤ 0xF4) :
    Pending.Leads ⟨[a], a.toNat - 0xF0, if a.toNat = 0xF0 then 0x90 else 0x80,
      if a.toNat = 0xF4 then 0x8F else 0xBF, 2⟩ := by
  intro tail fits
  obtain ⟨b, c, d, rfl⟩ := List.length_eq_three.mp fits.length
  have range := fits.first b rfl
  simp only at range
  have second : IsTail b := by unfold IsTail; split at range <;> split at range <;> omega
  refine utf8EncodeChar_four first second (fits.rest c (by simp)) (fits.rest d (by simp))
    (fun lowest => ?_) (fun highest => ?_)
  · rw [if_pos lowest] at range
    exact range.1
  · rw [if_pos highest] at range
    exact range.2

theorem lead_sound (b : UInt8) :
    State.Sound (lead b).2 ∧ (lead b).1.flatMap Piece.bytes ++ State.read (lead b).2 = [b] := by
  by_cases one : b.toNat ≤ 0x7F
  · rw [lead_one one]
    exact ⟨trivial, by simp [Piece.bytes, State.read, utf8EncodeChar_one one]⟩
  by_cases two : 0xC2 ≤ b.toNat ∧ b.toNat ≤ 0xDF
  · rw [lead_two two]
    exact ⟨leads_two two, rfl⟩
  by_cases three : 0xE0 ≤ b.toNat ∧ b.toNat ≤ 0xEF
  · rw [lead_three three]
    exact ⟨leads_three three, rfl⟩
  by_cases four : 0xF0 ≤ b.toNat ∧ b.toNat ≤ 0xF4
  · rw [lead_four four]
    exact ⟨leads_four four, rfl⟩
  · rw [lead_junk (by omega)]
    exact ⟨trivial, rfl⟩

theorem step_sound {state : State} (sound : state.Sound) (b : UInt8) :
    State.Sound (step state b).2 ∧
      (step state b).1.flatMap Piece.bytes ++ State.read (step state b).2 = state.read ++ [b] := by
  cases state with
  | none => exact lead_sound b
  | some p =>
    by_cases range : p.least ≤ b.toNat ∧ b.toNat ≤ p.greatest
    · cases after : p.after with
      | zero =>
        rw [step_last range after]
        have complete := sound [b] ⟨by simp [after], by simpa using range, by simp⟩
        rw [Pending.total, List.foldl_cons, List.foldl_nil] at complete
        exact ⟨trivial, by simpa [Piece.bytes, State.read] using complete⟩
      | succ more =>
        rw [step_next range after]
        refine ⟨fun tail fits => ?_, rfl⟩
        have complete := sound (b :: tail) ⟨?_, by simpa using range, ?_⟩
        · rw [total_next, complete]
          simp [Pending.next]
        · have := fits.length
          rw [List.length_cons, after, this]
          rfl
        · -- A byte after the first may be any that continues a character.
          intro c hc
          cases tail with
          | nil => cases hc
          | cons c' rest =>
            rcases List.mem_cons.mp hc with rfl | hc
            · exact fits.first c rfl
            · exact fits.rest c hc
    · rw [step_else range]
      obtain ⟨sound', bytes⟩ := lead_sound b
      refine ⟨sound', ?_⟩
      rw [List.flatMap_cons, List.append_assoc, bytes]
      rfl

theorem scan_bytes {state : State} (sound : state.Sound) (bytes : Bytes) :
    (scan state bytes).flatMap Piece.bytes = state.read ++ bytes := by
  induction bytes generalizing state with
  | nil => cases state <;> simp [scan, finish, State.read, Piece.bytes]
  | cons b rest ih =>
    obtain ⟨sound', read⟩ := step_sound sound b
    rw [scan, List.flatMap_append, ih sound', ← List.append_assoc, read]
    simp

/-- **No byte is lost when bytes are cut into characters and junk.** -/
theorem pieces_bytes (bytes : Bytes) : (pieces bytes).flatMap Piece.bytes = bytes :=
  scan_bytes (show State.Sound none from trivial) bytes

/-! ## Reading a text -/

theorem utf8EncodeChar_injective {c d : Char}
    (h : String.utf8EncodeChar c = String.utf8EncodeChar d) : c = d := by
  have same : String.ofList [c] = String.ofList [d] := by
    rw [← String.toByteArray_inj, String.toByteArray_ofList, String.toByteArray_ofList,
      List.utf8Encode_singleton, List.utf8Encode_singleton, h]
  have lists := congrArg String.toList same
  simpa using lists

theorem scan_of_lead {a : UInt8} {p : Pending} {tail : Bytes} (first : lead a = ([], some p))
    (read : p.read = [a]) (leads : p.Leads) (fits : Fits p tail) (rest : Bytes) :
    ∃ c, String.utf8EncodeChar c = a :: tail ∧
      scan none (a :: tail ++ rest) = .char c :: scan none rest := by
  refine ⟨Char.ofNat (p.total tail), by rw [leads tail fits, read, List.singleton_append], ?_⟩
  rw [List.cons_append, scan, step, first]
  exact scan_of_fits fits rest

theorem scan_of_character {bytes : Bytes} (h : Character bytes) (rest : Bytes) :
    ∃ c, String.utf8EncodeChar c = bytes ∧
      scan none (bytes ++ rest) = .char c :: scan none rest := by
  cases h with
  | one first =>
    refine ⟨_, utf8EncodeChar_one first, ?_⟩
    rw [List.singleton_append, scan, step, lead_one first]
    rfl
  | two first second =>
    refine scan_of_lead (lead_two first) rfl (leads_two first) ⟨rfl, ?_, by simp⟩ rest
    intro b hb
    cases hb
    exact second
  | three first second third shortest no_surrogate =>
    refine scan_of_lead (lead_three first) rfl (leads_three first) ⟨rfl, ?_, by simpa using third⟩
      rest
    intro b hb
    cases hb
    unfold IsTail at second
    constructor <;> simp only <;> split <;> omega
  | four first second third fourth shortest no_greater =>
    refine scan_of_lead (lead_four first) rfl (leads_four first)
      ⟨rfl, ?_, by simpa using ⟨third, fourth⟩⟩ rest
    intro b hb
    cases hb
    unfold IsTail at second
    constructor <;> simp only <;> split <;> omega

theorem scan_utf8EncodeChar (c : Char) (rest : Bytes) :
    scan none (String.utf8EncodeChar c ++ rest) = .char c :: scan none rest := by
  obtain ⟨d, same, scanned⟩ := scan_of_character (character_utf8EncodeChar c) rest
  rw [scanned, utf8EncodeChar_injective same]

theorem pieces_append_text (text : String) (back : Bytes) :
    pieces (encode text ++ back) = text.toList.map .char ++ pieces back := by
  unfold pieces encode
  induction text.toList with
  | nil => rfl
  | cons c cs ih =>
    rw [List.flatMap_cons, List.append_assoc, scan_utf8EncodeChar, ih, List.map_cons,
      List.cons_append]

theorem pieces_encode (text : String) : pieces (encode text) = text.toList.map .char := by
  have alone := pieces_append_text text []
  have none_left : pieces [] = [] := rfl
  rwa [List.append_nil, none_left, List.append_nil] at alone

theorem mapM_char?_eq_some_iff {cut : List Piece} {cs : List Char} :
    cut.mapM Piece.char? = some cs ↔ cut = cs.map .char := by
  induction cut generalizing cs with
  | nil => cases cs <;> simp
  | cons piece cut ih =>
    cases piece with
    | junk bytes => cases cs <;> simp [Piece.char?]
    | char c => cases cs <;> simp [Piece.char?, Option.bind_eq_some_iff, ih, and_comm]

/-- **The reader finds a text in exactly the bytes of that text.** -/
theorem decode?_eq_some_iff {bytes : Bytes} {text : String} :
    decode? bytes = some text ↔ encode text = bytes := by
  rw [decode?, Option.map_eq_some_iff]
  constructor
  · rintro ⟨cs, cut, rfl⟩
    rw [mapM_char?_eq_some_iff] at cut
    have kept := pieces_bytes bytes
    rw [cut, List.flatMap_map] at kept
    rw [encode, String.toList_ofList]
    exact kept
  · rintro rfl
    exact ⟨text.toList, mapM_char?_eq_some_iff.mpr (pieces_encode text), String.ofList_toList⟩

theorem decode?_eq_none_iff {bytes : Bytes} : decode? bytes = none ↔ ¬ WellFormed bytes := by
  rw [wellFormed_iff, Option.eq_none_iff_forall_ne_some]
  exact ⟨fun none_found ⟨text, spelled⟩ => none_found text (decode?_eq_some_iff.mpr spelled),
    fun ill_formed text found => ill_formed ⟨text, decode?_eq_some_iff.mp found⟩⟩

theorem lossy_encode (text : String) : lossy (encode text) = text := by
  rw [lossy, pieces_encode, List.map_map]
  exact (congrArg String.ofList (List.map_id _)).trans String.ofList_toList

/-- A text without replacements is shown of nothing but its own bytes. -/
theorem lossy_eq_iff {bytes : Bytes} {text : String} (plain : replacement ∉ text.toList) :
    lossy bytes = text ↔ bytes = encode text := by
  constructor
  · intro shown
    have cut : (pieces bytes).map Piece.shown = text.toList := by
      rw [← shown, lossy, String.toList_ofList]
    have unchanged : ∀ piece ∈ pieces bytes, Piece.char piece.shown = piece := by
      intro piece listed
      cases piece with
      | char c => rfl
      | junk stray => exact absurd (cut ▸ List.mem_map_of_mem listed) plain
    have chars : pieces bytes = text.toList.map .char := by
      rw [← cut, List.map_map]
      exact (List.map_id _).symm.trans (List.map_congr_left fun piece listed =>
        (unchanged piece listed).symm)
    have kept := pieces_bytes bytes
    rw [chars, List.flatMap_map] at kept
    exact kept.symm
  · rintro rfl
    exact lossy_encode text

end GroupKey.Utf8
