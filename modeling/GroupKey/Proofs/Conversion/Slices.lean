import GroupKey.Proofs.Conversion.Stages
import GroupKey.Proofs.Writer.Slices

/-!
# Conversions and the slices of the line

What a conversion comes to depends on how much a writer takes altogether, and not on the slices it
takes it in nor on the interruptions between them.

* `convert_plain`: with slices and interruptions a conversion is what it is without;
* `convert_within`: no more calls of the writer are made than there are interruptions and bytes of
  the line;
* `convert_ignores_slices`: both, and what is printed of the line in the end.
-/

namespace GroupKey

/-! ## Runs that can be cut off -/

section

variable {σ α β : Type}

def uncut (act : StateM σ α) : StateT σ Option α := fun s => some (act.run s)

/-- A run that could have been cut off has come to its end. -/
def Completes (bounded : StateT σ Option α) (act : StateM σ α) (s : σ) : Prop :=
  bounded.run s = some (act.run s)

theorem Completes.bind {bounded : StateT σ Option α} {act : StateM σ α}
    {next : α → StateT σ Option β} {next' : α → StateM σ β} {s : σ} (h : Completes bounded act s)
    (rest : Completes (next (act.run s).1) (next' (act.run s).1) (act.run s).2) :
    Completes (bounded >>= next) (act >>= next') s := by
  unfold Completes at h
  unfold Completes
  rw [StateT.run_bind, h]
  exact rest

theorem Completes.map {bounded : StateT σ Option α} {act : StateM σ α} {s : σ}
    (h : Completes bounded act s) (f : α → β) : Completes (f <$> bounded) (f <$> act) s := by
  unfold Completes at h
  unfold Completes
  rw [StateT.run_map, h]
  rfl

/-- Of two attempts in a row the second has to come to its end only if it is made. -/
theorem Completes.bind_run {first : ExceptT Failure (StateT σ Option) α}
    {first' : ExceptT Failure (StateM σ) α} {next : α → ExceptT Failure (StateT σ Option) β}
    {next' : α → ExceptT Failure (StateM σ) β} {s : σ} (h : Completes first.run first'.run s)
    (rest : ∀ a, Completes (next a).run (next' a).run (first'.run.run s).2) :
    Completes (first >>= next).run (first' >>= next').run s := by
  rw [ExceptT.run_bind, ExceptT.run_bind]
  refine h.bind ?_
  cases (first'.run.run s).1 with
  | ok a => exact rest a
  | error failure => rfl

end

namespace Surroundings

/-- The writer, the tree and the log, but the writer is called so many times for a piece of data and
no more: the run is cut off then. -/
def outletWithin (calls : Nat) : Outlet (StateT Surroundings Option) where
  print data := fun s =>
    (Writer.writeAllWithin calls s.out data).map fun taken => (taken.1, { s with out := taken.2 })
  flush := uncut outlet.flush
  save path content := uncut (outlet.save path content)
  record record := uncut (outlet.record record)

def plain (s : Surroundings) : Surroundings := { s with out := s.out.plain }

variable {s : Surroundings} {config : Config} {calls : Nat}

theorem print_completes {data : Bytes} (enough : s.out.interrupts + data.length ≤ calls) :
    Completes ((outletWithin calls).print data) (outlet.print data) s := by
  have taken := Writer.writeAllWithin_eq enough
  show (Writer.writeAllWithin calls s.out data).map _ = _
  rw [taken]
  rfl

theorem printLine_completes {line : String}
    (enough : s.out.interrupts + (Utf8.encode line ++ Utf8.encode "\n").length ≤ calls) :
    Completes ((outletWithin calls).printLine line).run (outlet.printLine line).run s := by
  rw [List.length_append] at enough
  refine Completes.bind_run ((print_completes (by omega)).map _) fun _ => ?_
  have fewer := s.out.interrupts_writeAll_le (Utf8.encode line)
  refine (print_completes ?_).map _
  show (s.out.writeAll (Utf8.encode line)).2.interrupts + _ ≤ calls
  omega

/-- **A conversion comes to its end** when its writer may be called as often for a piece of data as
there are interruptions and bytes of the line. -/
theorem convert_within (enough : s.out.interrupts + config.line.length ≤ calls) :
    (config.convert (outletWithin calls)).run.run s = some (s.convert config) := by
  rw [config.line_eq] at enough
  show Completes (config.convert (outletWithin calls)).run (config.convert outlet).run s
  unfold Config.convert
  -- Only the two pieces of the line are offered again and again; the other steps make one call.
  refine Completes.bind_run rfl fun bytes => ?_
  refine Completes.bind_run rfl fun _ => ?_
  refine Completes.bind_run (printLine_completes enough) fun _ => ?_
  refine Completes.bind_run rfl fun _ => ?_
  refine Completes.bind_run rfl fun _ => ?_
  exact Completes.bind_run rfl fun _ => rfl

/-- **A conversion does not show how its writer slices**, as long as something is taken each
time. -/
theorem convert_plain (goes_on : s.out.chunk ≠ some 0) (config : Config) :
    s.plain.convert config = ((s.convert config).1, (s.convert config).2.plain) := by
  by_cases paired : Hex.Paired config.digits
  · obtain ⟨bytes, spells⟩ := Hex.exists_spells_iff.mpr paired
    have printed : s.plain.out.writeAll config.line = _ := Writer.writeAll_plain goes_on config.line
    have files : s.plain.files = s.files := rfl
    rw [convert_of_spells spells, convert_of_spells spells, printed, files]
    rcases s.out.writeAll config.line with ⟨error | _, told⟩
    · rfl
    simp only [Writer.flush_plain]
    rcases told.flush with ⟨error | _, flushed⟩
    · rfl
    rcases s.files.write config.output bytes with ⟨error | _, files⟩ <;> rfl
  · obtain ⟨defect, _, no_key, ends⟩ := s.convert_unreadable paired
    rw [ends, convert_of_key_error no_key]

theorem convert_of_limit {bytes : Bytes} (spells : Hex.Spells config.digits bytes) {limit : Nat}
    (room : s.out.room = some limit) (short : limit < config.digits.length + 10) :
    (s.convert config).1 = .error (.stdout s.out.stopError) := by
  have full : ¬ s.out.HasRoom config.line.length := by
    intro h
    have := h.room limit room
    rw [config.length_line] at this
    omega
  rw [convert_cut_short spells full]

/-- **The slices in which a writer takes a line, and the interruptions between them, do not
matter**, as long as something is taken each time. A conversion comes to its end after so many calls
at most as there are interruptions and bytes; it differs from one with a writer that neither slices
nor is interrupted in nothing but what is left of the slices and the interruptions. Of the line just
as much is printed as there is room for, and if that is not all, the error is that of the writer. -/
theorem convert_ignores_slices (s : Surroundings) (config : Config)
    (goes_on : s.out.chunk ≠ some 0) :
    (∀ calls, s.out.interrupts + (config.digits.length + 10) ≤ calls →
      (config.convert (outletWithin calls)).run.run s = some (s.convert config)) ∧
    s.plain.convert config = ((s.convert config).1, (s.convert config).2.plain) ∧
    ∀ bytes, Hex.decode config.groupId = .ok bytes →
      (s.convert config).2.out.accepted = s.out.accepted ++
        (Utf8.encode ("GROUP_ID=" ++ config.groupId ++ "\n")).take
          (Writer.atMost s.out.room (config.digits.length + 10)) ∧
      ∀ limit, s.out.room = some limit → limit < config.digits.length + 10 →
        (∀ error, s.out.whenFull = .refuse error →
          (s.convert config).1 = .error (.stdout error)) ∧
        (s.out.whenFull = .takeNothing →
          (s.convert config).1 = .error (.stdout .tookNothing)) := by
  refine ⟨fun calls enough => ?_, convert_plain goes_on config, fun bytes decoded => ?_⟩
  · rw [← config.length_line] at enough
    exact convert_within enough
  · have spells := Hex.decode_eq_ok_iff.mp decoded
    refine ⟨?_, fun limit room short => ?_⟩
    · rw [accepted_of_spells spells, Writer.capacity_of_chunk _ goes_on, config.length_line]
      rfl
    · have ends := convert_of_limit spells room short
      unfold Writer.stopError at ends
      refine ⟨fun error refuses => ?_, fun takes_nothing => ?_⟩
      · rw [ends, refuses]
      · rw [ends, takes_nothing]

/-- The writer takes three bytes at a time, asks twice to be called again, and has room for all of
the line but its end. -/
theorem convert_ignores_slices_of_three :
    let out : Writer :=
      { room := some 13, chunk := some 3, whenFull := .takeNothing, interrupts := 2 }
    let s : Surroundings := { files := ⟨∅, []⟩, out }
    let config := Config.ofKey "dEaD"
    s.out.chunk ≠ some 0 ∧ Hex.decode config.groupId = .ok [0xDE, 0xAD] ∧
      (config.convert (outletWithin 16)).run.run s = some (s.convert config) ∧
      (s.convert config).2.out.accepted = Utf8.encode "GROUP_ID=dEaD" ∧
      (s.convert config).1 = .error (.stdout .tookNothing) := by
  intro out s config
  have goes_on : s.out.chunk ≠ some 0 := by decide
  have decoded : Hex.decode config.groupId = .ok [0xDE, 0xAD] := by decide
  obtain ⟨within, _, printed⟩ := convert_ignores_slices s config goes_on
  obtain ⟨accepted, stopped⟩ := printed _ decoded
  exact ⟨goes_on, decoded, within 16 (by decide), accepted.trans (by decide),
    (stopped 13 rfl (by decide)).2 rfl⟩

end Surroundings

end GroupKey
