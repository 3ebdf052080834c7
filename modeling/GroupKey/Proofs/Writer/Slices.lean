import GroupKey.Proofs.Writer.Delivery

/-!
# Slices and interruptions

A writer that takes its data in slices and is interrupted now and then does what the same writer
would do that takes at once whatever it has room for:

* `writeAll_plain`: how it ends, and what the writer has taken then;
* `writeAllWithin_eq`: so many calls as there are interruptions and bytes are enough.
-/

namespace GroupKey.Writer

/-- The writer as it would be if it took at once whatever it has room for and was never
interrupted. -/
def plain (w : Writer) : Writer := { w with chunk := none, interrupts := 0 }

theorem writeAll_nil (w : Writer) : w.writeAll [] = (.ok (), w) := by rw [writeAll]

theorem capacity_plain {w : Writer} (goes_on : w.chunk ≠ some 0) (n : Nat) :
    w.plain.capacity n = w.capacity n := by
  have plain_goes_on : w.plain.chunk ≠ some 0 := by simp [plain]
  rw [capacity_of_chunk n goes_on, capacity_of_chunk n plain_goes_on]
  rfl

/-- **Slices and interruptions are not seen afterwards**, as long as something is taken each
time. -/
theorem writeAll_plain {w : Writer} (goes_on : w.chunk ≠ some 0) (data : Bytes) :
    w.plain.writeAll data = ((w.writeAll data).1, (w.writeAll data).2.plain) := by
  by_cases h : data = []
  · rw [h, writeAll_nil, writeAll_nil]
  · have same : w.plain.ending data.length = w.ending data.length :=
      ending_congr (by rw [capacity_plain goes_on]) rfl
    rw [w.plain.writeAll_eq h, w.writeAll_eq h, same, capacity_plain goes_on]
    rfl

theorem flush_plain (w : Writer) : w.plain.flush = (w.flush.1, w.flush.2.plain) := rfl

/-! ## How many calls are made -/

/-- Offers data in so many calls and no more: there is no answer if these are not enough. -/
def writeAllWithin : Nat → Writer → Bytes → Option (Except IoError Unit × Writer)
  | _, w, [] => some (.ok (), w)
  | 0, _, _ :: _ => none
  | calls + 1, w, first :: rest =>
    match w.write (first :: rest) with
    | (.interrupted, after) => writeAllWithin calls after (first :: rest)
    | (.failed error, after) => some (.error error, after)
    | (.took 0, after) => some (.error .tookNothing, after)
    | (.took (more + 1), after) => writeAllWithin calls after (rest.drop more)

/-- **A writer is called no more often than there are interruptions and bytes**: each call that is
not the last uses up one of them. -/
theorem writeAllWithin_eq {calls : Nat} {w : Writer} {data : Bytes}
    (enough : w.interrupts + data.length ≤ calls) :
    writeAllWithin calls w data = some (w.writeAll data) := by
  induction calls generalizing w data with
  | zero =>
    have empty : data = [] := List.length_eq_zero_iff.mp (by omega)
    rw [empty, writeAllWithin, writeAll_nil]
  | succ calls ih =>
    cases data with
    | nil => rw [writeAllWithin, writeAll_nil]
    | cons first rest =>
      rw [List.length_cons] at enough
      rw [writeAllWithin, writeAll_of_write w (List.cons_ne_nil first rest)]
      rcases answer : w.write (first :: rest) with ⟨count | _ | error, after⟩
      · have kept := interrupts_of_took answer
        cases count with
        | zero => rfl
        | succ more =>
          have shorter : (rest.drop more).length ≤ rest.length := by
            rw [List.length_drop]
            omega
          exact ih (by omega)
      · have fewer := interrupts_lt_of_interrupted answer
        exact ih (by rw [List.length_cons]; omega)
      · rfl

theorem interrupts_writeAll_le (w : Writer) (data : Bytes) :
    (w.writeAll data).2.interrupts ≤ w.interrupts := by
  by_cases h : data = []
  · simp only [h, writeAll_nil, Nat.le_refl]
  · rw [w.writeAll_eq h]
    exact Nat.zero_le _

end GroupKey.Writer
