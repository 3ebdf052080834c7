import GroupKey.Proofs.Command.Streams
import GroupKey.Proofs.Conversion.Disclosure

/-!
# What the error stream tells of a key

* `told_alike`: conversions that tell the same are reported in the same words;
* `stderr_hides_key`: runs on values that are not told apart put the same on the error stream and
  end with the same status, whatever is logged.
-/

namespace GroupKey.Command.Machine

theorem ofConverted_congr {result result' : Except Failure Conversion}
    (ending : result.map (fun _ => ()) = result'.map (fun _ => ())) :
    Outcome.ofConverted result = Outcome.ofConverted result' ∧
      diagnosis result = diagnosis result' := by
  cases result with
  | ok conversion =>
    cases result' with
    | ok conversion' => exact ⟨rfl, rfl⟩
    | error failure' => cases ending
  | error failure =>
    cases result' with
    | ok conversion' => cases ending
    | error failure' =>
      cases ending
      exact ⟨rfl, rfl⟩

theorem told_alike {machine machine' : Machine} {arguments : List Bytes}
    (h : Request.ofArguments arguments = .convert) (err : machine.err = machine'.err)
    (log : machine.environment.value? "RUST_LOG" = machine'.environment.value? "RUST_LOG")
    (alike : Surroundings.TellsAlike machine.converted machine'.converted) :
    (machine.run arguments).2.err = (machine'.run arguments).2.err ∧
      (machine.run arguments).1 = (machine'.run arguments).1 := by
  obtain ⟨outcome, told⟩ := ofConverted_congr alike.ending
  have warned : machine.warnings = machine'.warnings := by rw [warnings, warnings, log]
  have filtered : machine.filter = machine'.filter := by rw [filter, filter, log]
  constructor
  · rw [machine.err_of_convert h, machine'.err_of_convert h, err, warned, filtered, alike.log, told]
  · rw [machine.outcome_of_convert h, machine'.outcome_of_convert h]
    exact outcome

/-- **The error stream and the status do not tell apart** two keys of the same length, two texts of
odd length, two texts with the same first byte in the same place that is no digit, or two values
that are no texts, whatever is logged. Where there is no key, all else is the same as well. -/
theorem stderr_hides_key {machine machine' : Machine} (arguments : List Bytes) {v w : Bytes}
    (same : SameBut "GROUP_ID" machine machine')
    (found : machine.environment.value? "GROUP_ID" = some v)
    (found' : machine'.environment.value? "GROUP_ID" = some w) (alike : Indistinct v w) :
    (machine.run arguments).2.err = (machine'.run arguments).2.err ∧
      (machine.run arguments).1.status = (machine'.run arguments).1.status ∧
      (¬ Hex.Paired v → (machine.run arguments).2.out = (machine'.run arguments).2.out ∧
        (machine.run arguments).2.files = (machine'.run arguments).2.files) := by
  by_cases asked : Request.ofArguments arguments = .convert
  · obtain ⟨told, no_key⟩ :=
      Surroundings.convertFrom_of_indistinct (s := machine.surroundings) alike found found'
    have converted : machine'.converted =
        machine.surroundings.convertFrom machine'.environment := by
      rw [Machine.converted, same.surroundings]
    rw [← converted] at told no_key
    have log := same.others "RUST_LOG" (by decide)
    obtain ⟨err, outcome⟩ := told_alike asked same.err log told
    refine ⟨err, congrArg Outcome.status outcome, fun unpaired => ?_⟩
    obtain ⟨_, out, files⟩ := run_of_same_conversion asked (no_key unpaired)
    exact ⟨out, files⟩
  · obtain ⟨outcome, err, out, files⟩ := same.run_of_other asked
    exact ⟨err, congrArg Outcome.status outcome, fun _ => ⟨out, files⟩⟩

/-- Two keys of four digits, with all that is logged shown. -/
theorem stderr_hides_key_of_four :
    let machine : Machine :=
      { environment := [("RUST_LOG", Utf8.encode "trace"), ("GROUP_ID", Utf8.encode "dEaD")]
        files := ⟨∅, []⟩ }
    let other : Machine :=
      { machine with environment := machine.environment.set "GROUP_ID" (Utf8.encode "00ff") }
    SameBut "GROUP_ID" other machine ∧
      Indistinct (Utf8.encode "00ff") (Utf8.encode "dEaD") ∧
      (other.run []).2.err = (machine.run []).2.err := by
  intro machine other
  have same : SameBut "GROUP_ID" other machine := machine.sameBut_set _ _
  have found : machine.environment.value? "GROUP_ID" = some (Utf8.encode "dEaD") := by decide
  have decoded : Hex.decode "dEaD" = .ok [0xDE, 0xAD] := by decide
  have decoded' : Hex.decode "00ff" = .ok [0x00, 0xFF] := by decide
  have alike : Indistinct (Utf8.encode "00ff") (Utf8.encode "dEaD") :=
    .keys (Hex.paired_of_spells (Hex.decode_eq_ok_iff.mp decoded'))
      (Hex.paired_of_spells (Hex.decode_eq_ok_iff.mp decoded)) (by decide)
  exact ⟨same, alike,
    (stderr_hides_key [] same (Environment.value?_set_self _ _ _) found alike).1⟩

end GroupKey.Command.Machine
