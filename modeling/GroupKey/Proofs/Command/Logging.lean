import GroupKey.Proofs.Command.Streams
import Mathlib.Data.List.Nodup

/-!
# What the specification of the log can change

* `converted_of_same_key`: the conversion does not look at it;
* `logging_keeps_outcome`: it chooses among the records that the error stream shows, and adds what
  is wrong with itself; nothing else changes.
-/

namespace GroupKey

namespace Surroundings

theorem records_nodup (count : Nat) (path : Path) : (records count path).Nodup := by
  have apart : Log.decoded count path ≠ Log.wrote count path := by
    intro same
    have level := congrArg Log.Record.level same
    cases level
  simpa [records] using apart

theorem log_nodup (s : Surroundings) (env : Environment) (fresh : s.log = []) :
    (s.convertFrom env).2.log.Nodup := by
  obtain ⟨noted, count, path, log, cut⟩ := s.records_of_run env
  rw [log, fresh, List.nil_append]
  exact (records_nodup count path).sublist cut.sublist

end Surroundings

namespace Command.Machine

variable {machine machine' : Machine}

theorem converted_of_same_key (same : SameBut "RUST_LOG" machine machine') :
    machine'.converted = machine.converted := by
  have key := same.others "GROUP_ID" (by decide)
  rw [converted, converted, same.surroundings]
  exact (Surroundings.convertFrom_congr _ key).symm

theorem shown_nodup (machine : Machine) (filter : Log.Filter) :
    (machine.converted.2.log.filter filter.shows).Nodup := by
  apply List.Nodup.filter
  exact Surroundings.log_nodup _ _ rfl

/-- **What the specification of the log can change.** Status, standard output and tree are the same
for all specifications, and so is the error stream of a run that does not convert. On that of a run
that converts come first the warnings about the specification, then some of the records of the
conversion, in order and none of them twice, and last the diagnosis, which is the same for all.
Without a specification there is no warning and no record, and a run that succeeds puts nothing on
the error stream. -/
theorem logging_keeps_outcome (arguments : List Bytes) (same : SameBut "RUST_LOG" machine machine') :
    (machine'.run arguments).1.status = (machine.run arguments).1.status ∧
    (machine'.run arguments).2.out = (machine.run arguments).2.out ∧
    (machine'.run arguments).2.files = (machine.run arguments).2.files ∧
    (Request.ofArguments arguments ≠ .convert →
      (machine'.run arguments).2.err = (machine.run arguments).2.err) ∧
    (Request.ofArguments arguments = .convert →
      ∃ shown : List Log.Record, shown.Sublist machine.converted.2.log ∧ shown.Nodup ∧
        (machine'.run arguments).2.err = machine'.err ++ onStream
          (machine'.warnings ++ shown.map Log.Record.line ++ diagnosis machine.converted.1) ∧
        (machine'.environment.value? "RUST_LOG" = none →
          machine'.warnings = [] ∧ shown = [] ∧
          ((machine'.run arguments).1.status = 0 →
            (machine'.run arguments).2.err = machine'.err))) := by
  have converted := converted_of_same_key same
  by_cases asked : Request.ofArguments arguments = .convert
  · obtain ⟨outcome, out, files⟩ := run_of_same_conversion asked converted
    have err := machine'.err_of_convert asked
    rw [converted] at err
    refine ⟨congrArg Outcome.status outcome, out, files, absurd asked, fun _ => ?_⟩
    refine ⟨machine.converted.2.log.filter machine'.filter.shows, List.filter_sublist,
      machine.shown_nodup machine'.filter, err, fun unset => ?_⟩
    have quiet := machine'.shown_of_unset unset
    rw [converted] at quiet
    exact ⟨machine'.warnings_of_unset unset, List.map_eq_nil_iff.mp quiet,
      machine'.err_of_success asked unset⟩
  · obtain ⟨outcome, err, out, files⟩ := same.run_of_other asked
    exact ⟨congrArg Outcome.status outcome.symm, out.symm, files.symm, fun _ => err.symm,
      fun convert => absurd convert asked⟩

/-- A specification of which one directive cannot be read, and none at all. -/
theorem logging_keeps_outcome_of_none :
    let machine : Machine :=
      { environment := [("GROUP_ID", Utf8.encode "dEaD")], files := ⟨∅, []⟩ }
    let logged : Machine :=
      { machine with environment := machine.environment.set "RUST_LOG" (Utf8.encode "debug,a=b=c") }
    SameBut "RUST_LOG" logged machine ∧ Request.ofArguments [] = .convert ∧
      machine.environment.value? "RUST_LOG" = none ∧
      (machine.run []).1.status = (logged.run []).1.status ∧
      (machine.run []).2.err = onStream (diagnosis logged.converted.1) := by
  intro machine logged
  have same : SameBut "RUST_LOG" logged machine := machine.sameBut_set _ _
  have unset : machine.environment.value? "RUST_LOG" = none := by decide
  obtain ⟨status, _, _, _, told⟩ := logging_keeps_outcome [] same
  obtain ⟨shown, _, _, err, quiet⟩ := told rfl
  obtain ⟨no_warning, no_record, _⟩ := quiet unset
  rw [no_warning, no_record] at err
  exact ⟨same, rfl, unset, status, err.trans String.empty_append⟩

end Command.Machine

end GroupKey
