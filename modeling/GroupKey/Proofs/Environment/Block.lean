import GroupKey.Proofs.Environment
import GroupKey.Proofs.Text.SmallLetters
import Mathlib.Data.List.TakeDrop
import Mathlib.Tactic.MkIffOfInductiveProp

/-!
# Variables in a block

A process keeps its variables as entries, each a name, an equals sign and a value, and hands them
over in one block in which a zero byte ends each entry. A name with an equals sign, or a zero byte
anywhere, would make an entry look like another one. A name need not be text, but then nobody looks
it up.

* `ofBlock_block`: variables that can be set are read back from a block, but for those whose name is
  no text;
* `value?_ofBlock`: what is read back holds the values that the process keeps.
-/

namespace GroupKey

/-- The variables of a process. Their names and values are bytes. -/
abbrev Variables := List (Bytes × Bytes)

/-- A variable that a process can have. -/
@[mk_iff] structure Settable (setting : Bytes × Bytes) : Prop where
  named : setting.1 ≠ []
  no_equals : 0x3D ∉ setting.1
  no_zero : 0 ∉ setting.1
  value_no_zero : 0 ∉ setting.2

instance : DecidablePred Settable := fun setting => decidable_of_iff' _ (settable_iff setting)

namespace Variables

def entry (setting : Bytes × Bytes) : Bytes := setting.1 ++ 0x3D :: setting.2

def block (vars : Variables) : Bytes := vars.flatMap fun setting => entry setting ++ [0]

def ofText? (setting : Bytes × Bytes) : Option (String × Bytes) :=
  (Utf8.decode? setting.1).map (·, setting.2)

def texts (vars : Variables) : Environment := vars.filterMap ofText?

variable {setting : Bytes × Bytes} {vars : Variables}

theorem ofEntry_entry (settable : Settable setting) :
    Environment.ofEntry (entry setting) = ofText? setting := by
  obtain ⟨name, value⟩ := setting
  have name_bytes : ∀ b ∈ name, (b != 0x3D) = true :=
    fun b listed => bne_iff_ne.mpr fun same => settable.no_equals (same ▸ listed)
  have parts : (entry (name, value)).span (· != 0x3D) = (name, 0x3D :: value) := by
    rw [entry, List.span_eq_takeWhile_dropWhile, List.takeWhile_append_of_pos name_bytes,
      List.dropWhile_append_of_pos name_bytes]
    simp
  rw [Environment.ofEntry, parts]
  rfl

theorem zero_notMem_entry (settable : Settable setting) : 0 ∉ entry setting := by
  have equals : (0 : UInt8) ≠ 0x3D := by decide
  rw [entry, List.mem_append, List.mem_cons]
  rintro (found | same | found)
  · exact settable.no_zero found
  · exact equals same
  · exact settable.value_no_zero found

theorem splitOn_block (settable : ∀ setting ∈ vars, Settable setting) :
    vars.block.splitOn 0 = vars.map entry ++ [[]] := by
  induction vars with
  | nil => rfl
  | cons setting vars ih =>
    have first := zero_notMem_entry (settable setting List.mem_cons_self)
    have others := ih fun other listed => settable other (List.mem_cons_of_mem setting listed)
    have ended : block (setting :: vars) = entry setting ++ 0 :: block vars := by simp [block]
    rw [ended, List.splitOn_append_cons_self_of_not_mem first, others, List.map_cons,
      List.cons_append]

/-- **Variables that can be set are read back from a block**, but for those whose name is no
text. -/
theorem ofBlock_block (settable : ∀ setting ∈ vars, Settable setting) :
    Environment.ofBlock vars.block = vars.texts := by
  have no_entry : [([] : Bytes)].filterMap Environment.ofEntry = [] := rfl
  rw [Environment.ofBlock, splitOn_block settable, List.filterMap_append, no_entry,
    List.append_nil, List.filterMap_map]
  exact List.filterMap_congr fun setting listed => ofEntry_entry (settable setting listed)

theorem value?_texts (vars : Variables) (name : String) :
    vars.texts.value? name = vars.lookup (Utf8.encode name) := by
  induction vars with
  | nil => rfl
  | cons setting vars ih =>
    obtain ⟨raw, value⟩ := setting
    cases read : Utf8.decode? raw with
    | none =>
      have no_name : raw ≠ Utf8.encode name := fun same => by
        rw [Utf8.decode?_eq_some_iff.mpr same.symm] at read
        cases read
      have passed : (Utf8.encode name == raw) = false := beq_eq_false_iff_ne.mpr no_name.symm
      have left : texts ((raw, value) :: vars) = texts vars := by
        rw [texts, List.filterMap_cons_none]
        · rfl
        · rw [ofText?, read, Option.map_none]
      rw [left, ih, List.lookup_cons, passed]
    | some other =>
      have spelled := Utf8.decode?_eq_some_iff.mp read
      have kept : texts ((raw, value) :: vars) = (other, value) :: texts vars := by
        rw [texts, List.filterMap_cons_some]
        · rfl
        · rw [ofText?, read, Option.map_some]
      rw [kept, Environment.value?, List.lookup_cons, List.lookup_cons]
      by_cases same : name = other
      · subst same
        rw [spelled]
        simp
      · have passed : (name == other) = false := beq_eq_false_iff_ne.mpr same
        have passed' : (Utf8.encode name == raw) = false := beq_eq_false_iff_ne.mpr fun found =>
          same (Utf8.encode_injective (found.trans spelled.symm))
        rw [passed, passed']
        exact ih

theorem value?_ofBlock (settable : ∀ setting ∈ vars, Settable setting) (name : String) :
    (Environment.ofBlock vars.block).value? name = vars.lookup (Utf8.encode name) := by
  rw [ofBlock_block settable, value?_texts]

end Variables

end GroupKey
