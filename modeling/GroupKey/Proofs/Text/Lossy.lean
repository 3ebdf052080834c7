import GroupKey.Proofs.Text.WellFormed

/-!
# Bytes shown as text

Where bytes are cut into characters and junk, the cut before and behind an ASCII byte is certain: no
character under way can take it. So bytes that spell no text leave their neighbours alone.

* `step_ascii`: an ASCII byte ends whatever is under way, and is a character itself;
* `scan_append_ascii`, `lossy_append_ascii`: what is on the two sides of it is shown by itself;
* `lossy_append_text`: so is what follows a text;
* `encode_lossy_iff`: what is shown is what is there exactly if it is text;
* `splitOn_lossy`: the parts between slashes are shown one by one.
-/

namespace GroupKey.Utf8

/-- A reader inside a character can take no ASCII byte. -/
def State.PastAscii : State → Prop
  | none => True
  | some p => 0x80 ≤ p.least

theorem lead_pastAscii (b : UInt8) : State.PastAscii (lead b).2 := by
  by_cases one : b.toNat ≤ 0x7F
  · rw [lead_one one]
    exact trivial
  by_cases two : 0xC2 ≤ b.toNat ∧ b.toNat ≤ 0xDF
  · rw [lead_two two]
    exact Nat.le_refl 0x80
  by_cases three : 0xE0 ≤ b.toNat ∧ b.toNat ≤ 0xEF
  · rw [lead_three three]
    simp only [State.PastAscii]
    split <;> omega
  by_cases four : 0xF0 ≤ b.toNat ∧ b.toNat ≤ 0xF4
  · rw [lead_four four]
    simp only [State.PastAscii]
    split <;> omega
  · rw [lead_junk (by omega)]
    exact trivial

theorem step_pastAscii (state : State) (b : UInt8) : State.PastAscii (step state b).2 := by
  cases state with
  | none => exact lead_pastAscii b
  | some p =>
    by_cases range : p.least ≤ b.toNat ∧ b.toNat ≤ p.greatest
    · cases after : p.after with
      | zero =>
        rw [step_last range after]
        exact trivial
      | succ more =>
        rw [step_next range after]
        exact Nat.le_refl 0x80
    · rw [step_else range]
      exact lead_pastAscii b

variable {b : UInt8}

/-- **An ASCII byte ends whatever is under way**, and is a character itself. -/
theorem step_ascii {state : State} (past : state.PastAscii) (ascii : b.toNat < 0x80) :
    step state b = (finish state ++ [.char (Char.ofNat b.toNat)], none) := by
  have single := lead_one (a := b) (by omega)
  cases state with
  | none => exact single
  | some p =>
    have least : 0x80 ≤ p.least := past
    rw [step_else (by omega), single]
    rfl

theorem scan_append_ascii {state : State} (past : state.PastAscii) (front : Bytes)
    (ascii : b.toNat < 0x80) (back : Bytes) :
    scan state (front ++ b :: back) =
      scan state front ++ .char (Char.ofNat b.toNat) :: scan none back := by
  induction front generalizing state with
  | nil =>
    have read : scan state (b :: back) = (step state b).1 ++ scan (step state b).2 back := rfl
    rw [List.nil_append, read, step_ascii past ascii, List.append_assoc]
    rfl
  | cons a front ih =>
    rw [List.cons_append, scan, scan, ih (step_pastAscii state a), List.append_assoc]

/-- **What is on the two sides of an ASCII byte is shown by itself.** -/
theorem lossy_append_ascii (front : Bytes) (ascii : b.toNat < 0x80) (back : Bytes) :
    lossy (front ++ b :: back) =
      lossy front ++ String.singleton (Char.ofNat b.toNat) ++ lossy back := by
  have past : State.PastAscii none := trivial
  apply String.toList_inj.mp
  simp only [lossy, pieces, scan_append_ascii past front ascii back, String.toList_append,
    String.toList_ofList, String.toList_singleton, List.map_append, List.map_cons, List.append_assoc,
    List.singleton_append]
  rfl

/-- **What follows a text is shown by itself**, and the text as it is. -/
theorem lossy_append_text (text : String) (back : Bytes) :
    lossy (encode text ++ back) = text ++ lossy back := by
  apply String.toList_inj.mp
  rw [lossy, lossy, pieces_append_text, List.map_append, List.map_map, String.toList_append,
    String.toList_ofList, String.toList_ofList]
  congr 1
  exact List.map_id _

/-- **What is shown is what is there exactly if it is text.** -/
theorem encode_lossy_iff {bytes : Bytes} : encode (lossy bytes) = bytes ↔ WellFormed bytes := by
  rw [wellFormed_iff]
  constructor
  · intro same
    exact ⟨lossy bytes, same⟩
  · rintro ⟨text, rfl⟩
    rw [lossy_encode]

theorem mem_of_mem_lossy {bytes : Bytes} (ascii : b.toNat < 0x80)
    (shown : Char.ofNat b.toNat ∈ (lossy bytes).toList) : b ∈ bytes := by
  have number := toNat_ofNat_byte b
  rw [lossy, String.toList_ofList, List.mem_map] at shown
  obtain ⟨piece, cut, same⟩ := shown
  cases piece with
  | junk stray =>
    have beyond : replacement.toNat = b.toNat := by rw [← number, ← same]; rfl
    rw [show replacement.toNat = 0xFFFD from rfl] at beyond
    omega
  | char c =>
    have spelled := utf8EncodeChar_one (a := b) (by omega)
    have byte : b ∈ (Piece.char c).bytes := by
      rw [show c = Char.ofNat b.toNat from same, Piece.bytes, spelled]
      exact List.mem_singleton_self b
    rw [← pieces_bytes bytes]
    exact List.mem_flatMap.mpr ⟨_, cut, byte⟩

/-- **The parts between separators are shown one by one**, whatever is in them, if the separator is
an ASCII byte. -/
theorem splitOn_lossy (ascii : b.toNat < 0x80) (bytes : Bytes) :
    (lossy bytes).toList.splitOn (Char.ofNat b.toNat) =
      (bytes.splitOn b).map fun part => (lossy part).toList := by
  by_cases separated : b ∈ bytes
  · obtain ⟨front, back, split, none_before⟩ := List.eq_append_cons_of_mem separated
    have shorter : back.length < bytes.length := by
      rw [split, List.length_append, List.length_cons]
      omega
    have none_shown : Char.ofNat b.toNat ∉ (lossy front).toList :=
      fun shown => none_before (mem_of_mem_lossy ascii shown)
    rw [split, lossy_append_ascii front ascii back, String.toList_append, String.toList_append,
      String.toList_singleton, List.append_assoc, List.singleton_append,
      List.splitOn_append_cons_self_of_not_mem none_shown,
      List.splitOn_append_cons_self_of_not_mem none_before, List.map_cons,
      splitOn_lossy ascii back]
  · have none_shown : Char.ofNat b.toNat ∉ (lossy bytes).toList :=
      fun shown => separated (mem_of_mem_lossy ascii shown)
    rw [List.splitOn_eq_singleton separated, List.splitOn_eq_singleton none_shown,
      List.map_singleton]
termination_by bytes.length

end GroupKey.Utf8
