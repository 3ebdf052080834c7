import GroupKey.Proofs.Hex.Spelling

/-!
# What is wrong with a text

* `FirstFault`: the first byte of a text that is no digit;
* `decode_of_odd`: digits that do not pair up are reported as such, whatever else is wrong;
* `decode_of_firstFault`: of an even number of bytes the first that is no digit is reported, with
  its place;
* `fault_cases`: a text that cannot be read has one of these two defects.
-/

namespace GroupKey.Hex

structure FirstFault (text : Bytes) (place : Nat) (b : UInt8) : Prop where
  found : text[place]? = some b
  fault : ¬ IsDigit b
  before : ∀ earlier < place, ∀ c, text[earlier]? = some c → IsDigit c

theorem firstFault_of_fault {c : UInt8} (rest : Bytes) (fault : ¬ IsDigit c) :
    FirstFault (c :: rest) 0 c := ⟨rfl, fault, fun _ less => absurd less (Nat.not_lt_zero _)⟩

theorem FirstFault.cons {c b : UInt8} {rest : Bytes} {place : Nat} (digit : IsDigit c)
    (h : FirstFault rest place b) : FirstFault (c :: rest) (place + 1) b := by
  refine ⟨h.found, h.fault, fun earlier less d present => ?_⟩
  cases earlier with
  | zero =>
    cases present
    exact digit
  | succ earlier => exact h.before earlier (Nat.lt_of_succ_lt_succ less) d present

theorem FirstFault.here {c b : UInt8} {rest : Bytes} {place : Nat}
    (h : FirstFault (c :: rest) place b) (fault : ¬ IsDigit c) : place = 0 ∧ b = c := by
  cases place with
  | zero => exact ⟨rfl, (Option.some.inj h.found).symm⟩
  | succ place => exact absurd (h.before 0 (Nat.succ_pos place) c rfl) fault

theorem FirstFault.behind {c b : UInt8} {rest : Bytes} {place : Nat}
    (h : FirstFault (c :: rest) place b) (digit : IsDigit c) :
    ∃ further, place = further + 1 ∧ FirstFault rest further b := by
  cases place with
  | zero => exact absurd (Option.some.inj h.found ▸ digit) h.fault
  | succ further =>
    refine ⟨further, rfl, h.found, h.fault, fun earlier less d present => ?_⟩
    exact h.before (earlier + 1) (Nat.succ_lt_succ less) d present

theorem exists_firstFault {text : Bytes} (h : ¬ ∀ b ∈ text, IsDigit b) :
    ∃ place b, FirstFault text place b := by
  induction text with
  | nil => exact absurd (fun b found => absurd found List.not_mem_nil) h
  | cons c rest ih =>
    by_cases digit : IsDigit c
    · have behind : ¬ ∀ b ∈ rest, IsDigit b := fun all => h fun b found =>
        (List.mem_cons.mp found).elim (fun same => same ▸ digit) (all b)
      obtain ⟨place, b, first⟩ := ih behind
      exact ⟨place + 1, b, first.cons digit⟩
    · exact ⟨0, c, firstFault_of_fault rest digit⟩

/-- The pairs are read from the left, and what is wrong with the first that cannot be read is
reported, wherever they stand. -/
theorem decodePairs_of_firstFault (index : Nat) {text : Bytes} {place : Nat} {b : UInt8}
    (even : text.length % 2 = 0) (first : FirstFault text place b) :
    decodePairs index text = .error (.atByte b (index + place)) := by
  induction index, text using decodePairs.induct generalizing place with
  | case1 index => exact absurd first.found (by simp)
  | case2 index head => simp at even
  | case3 index high low rest no_high =>
    obtain ⟨rfl, rfl⟩ := first.here (digit?_eq_none_iff.mp no_high)
    simp [decodePairs, no_high]
  | case4 index high low rest h no_low is_high =>
    obtain ⟨_, rfl, after_high⟩ := first.behind ⟨h, digit?_eq_some_iff.mp is_high⟩
    obtain ⟨rfl, rfl⟩ := after_high.here (digit?_eq_none_iff.mp no_low)
    simp [decodePairs, no_low, is_high]
  | case5 index high low rest h l is_low is_high ih =>
    obtain ⟨_, rfl, after_high⟩ := first.behind ⟨h, digit?_eq_some_iff.mp is_high⟩
    obtain ⟨further, rfl, after_pair⟩ := after_high.behind ⟨l, digit?_eq_some_iff.mp is_low⟩
    rw [List.length_cons, List.length_cons] at even
    have reported := ih (by omega) after_pair
    simp only [decodePairs, is_low, is_high, reported, Except.map]
    rw [Nat.add_assoc, Nat.add_comm 2 further]

theorem decode_of_odd {text : String} (odd : (Utf8.encode text).length % 2 = 1) :
    decode text = .error .oddLength := if_pos odd

theorem decode_of_firstFault {text : String} {place : Nat} {b : UInt8}
    (even : (Utf8.encode text).length % 2 = 0) (first : FirstFault (Utf8.encode text) place b) :
    decode text = .error (.atByte b place) := by
  have reported := decodePairs_of_firstFault 0 even first
  rw [Nat.zero_add] at reported
  rw [← reported]
  exact if_neg (by omega)

theorem fault_cases {text : Bytes} (h : ¬ Paired text) :
    text.length % 2 = 1 ∨ text.length % 2 = 0 ∧ ∃ place b, FirstFault text place b := by
  rcases Nat.mod_two_eq_zero_or_one text.length with even | odd
  · exact .inr ⟨even, exists_firstFault fun digits => h ⟨even, digits⟩⟩
  · exact .inl odd

end GroupKey.Hex
