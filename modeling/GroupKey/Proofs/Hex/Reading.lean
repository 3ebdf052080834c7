import GroupKey.Config
import GroupKey.Proofs.Hex.Defects
import GroupKey.Proofs.Text.WellFormed

/-!
# What becomes of a value that is read as a key

* `readKey_of_odd`, `readKey_of_spells`, `readKey_of_firstFault`: what is read of each kind of value;
* `readKey_reports_first_defect`: the three kinds leave out none, and each has a result of its own.
-/

namespace GroupKey

open Hex

variable {value : String} {bytes : Bytes} {place : Nat} {b : UInt8}

theorem readKey_of_odd (name : String) (odd : (Utf8.encode value).length % 2 = 1) :
    readKey name value = .error (.notHex name .oddLength) := by
  rw [readKey, decode_of_odd odd]
  rfl

theorem readKey_of_spells (name : String) (spells : Spells (Utf8.encode value) bytes) :
    readKey name value = .ok bytes := by
  rw [readKey, decode_eq_ok_iff.mpr spells]
  rfl

theorem readKey_of_firstFault (name : String) (even : (Utf8.encode value).length % 2 = 0)
    (first : FirstFault (Utf8.encode value) place b) :
    readKey name value = .error (.notHex name (.atByte b place)) := by
  rw [readKey, decode_of_firstFault even first]
  rfl

/-- **What becomes of a value that is read as a key.** An odd number of bytes is reported whatever
the bytes are. Otherwise the bytes that the digits spell are read, or the first byte that is no digit
is reported, with its place and the character that has its number. Nothing else is ever reported. -/
theorem readKey_reports_first_defect (name value : String) :
    let digits := Utf8.encode value
    (digits.length % 2 = 1 ↔ readKey name value = .error (.notHex name .oddLength)) ∧
    (digits.length % 2 = 0 ∧ (∀ b ∈ digits, IsDigit b) ↔
      ∃ bytes, Spells digits bytes ∧ readKey name value = .ok bytes) ∧
    (digits.length % 2 = 0 ∧ (∃ b ∈ digits, ¬ IsDigit b) ↔
      ∃ index b c, FirstFault digits index b ∧ c.toNat = b.toNat ∧
        readKey name value = .error (.notHex name (.badDigit c index))) ∧
    ∀ other, readKey name value ≠ .error (.notHex other .invalidLength) := by
  intro digits
  by_cases paired : Paired digits
  · obtain ⟨bytes, spells⟩ := exists_spells_iff.mpr paired
    have read := readKey_of_spells name spells
    have no_fault : ¬ ∃ b ∈ digits, ¬ IsDigit b := fun ⟨b, listed, fault⟩ =>
      fault (paired.digits b listed)
    have even := paired.even
    refine ⟨?_, ?_, ?_, ?_⟩
    · exact iff_of_false (by omega) (by simp [read])
    · exact iff_of_true ⟨even, paired.digits⟩ ⟨bytes, spells, read⟩
    · exact iff_of_false (fun h => no_fault h.2) (by simp [read])
    · simp [read]
  · have no_spelling : ¬ ∃ bytes, Spells digits bytes := fun h => paired (exists_spells_iff.mp h)
    have unpaired : ¬ (digits.length % 2 = 0 ∧ ∀ b ∈ digits, IsDigit b) := fun h =>
      paired ⟨h.1, h.2⟩
    rcases fault_cases paired with odd | ⟨even, place, b, first⟩
    · have read := readKey_of_odd name odd
      refine ⟨?_, ?_, ?_, ?_⟩
      · exact iff_of_true odd read
      · exact iff_of_false unpaired (by simp [read])
      · exact iff_of_false (by omega) (by simp [read])
      · simp [read]
    · have read := readKey_of_firstFault name even first
      have fault : ∃ b ∈ digits, ¬ IsDigit b :=
        ⟨b, List.mem_of_getElem? first.found, first.fault⟩
      refine ⟨?_, ?_, ?_, ?_⟩
      · exact iff_of_false (by omega) (by simp [read, Defect.atByte])
      · exact iff_of_false unpaired (by simp [read])
      · exact iff_of_true ⟨even, fault⟩ ⟨place, b, _, first, Utf8.toNat_ofNat_byte b, read⟩
      · simp [read, Defect.atByte]

/-- The first byte of a character that is no digit, in the low place of its pair. -/
theorem readKey_reports_first_defect_of_accent :
    ∃ index b c, FirstFault (Utf8.encode "0a1é2") index b ∧ c.toNat = b.toNat ∧
      readKey "GROUP_ID" "0a1é2" = .error (.notHex "GROUP_ID" (.badDigit c index)) := by
  have fault : ∃ b ∈ Utf8.encode "0a1é2", ¬ IsDigit b :=
    ⟨0xC3, by decide, digit?_eq_none_iff.mp (by decide)⟩
  exact (readKey_reports_first_defect "GROUP_ID" "0a1é2").2.2.1.mp ⟨by decide, fault⟩

end GroupKey
