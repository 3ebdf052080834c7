import GroupKey.Proofs.Command.Runs

/-!
# What a run tells

* `records_of_conversion`: a conversion notes its two records in order, as far as it gets;
* `err_of_convert`, `out_of_convert`: what a run that converts puts on its two streams;
* `err_of_unset`: without a specification of the log that is its diagnosis alone;
* `run_of_same_conversion`: all but the error stream is settled by the conversion;
* `run_of_same_streams`: any other run looks at no variable and at nothing in the tree;
* `SameBut`: machines that differ in one variable at most.
-/

namespace GroupKey

namespace Surroundings

def records (count : Nat) (path : Path) : List Log.Record :=
  [Log.decoded count path, Log.wrote count path]

/-- A conversion notes its records in order, as far as it gets. -/
theorem records_of_conversion (s : Surroundings) (config : Config) :
    ∃ noted count, (s.convert config).2.log = s.log ++ noted ∧
      noted <+: records count config.output := by
  cases s.course config with
  | unreadable unpaired =>
    obtain ⟨_, _, _, ends⟩ := s.convert_unreadable unpaired
    exact ⟨[], 0, by rw [ends, List.append_nil], List.nil_prefix⟩
  | @cutShort bytes spells full =>
    refine ⟨[_], bytes.length, ?_, ⟨[_], rfl⟩⟩
    rw [convert_cut_short spells full]
    rfl
  | @unflushed bytes _ spells room refused =>
    refine ⟨[_], bytes.length, ?_, ⟨[_], rfl⟩⟩
    rw [convert_unflushed spells room refused]
    rfl
  | @unwritten bytes _ spells room passed refused =>
    refine ⟨[_], bytes.length, ?_, ⟨[_], rfl⟩⟩
    rw [convert_unwritten spells room passed refused]
    rfl
  | @done bytes spells room passed written =>
    refine ⟨_, bytes.length, ?_, List.prefix_rfl⟩
    rw [convert_done spells room passed written]
    rfl

theorem records_of_run (s : Surroundings) (env : Environment) :
    ∃ noted count path, (s.convertFrom env).2.log = s.log ++ noted ∧
      noted <+: records count path := by
  rcases s.convertFrom_cases env with ⟨error, refused⟩ | ⟨config, _, converts⟩
  · exact ⟨[], 0, Config.defaultOutput, by rw [refused, List.append_nil], List.nil_prefix⟩
  · obtain ⟨noted, count, log, cut⟩ := s.records_of_conversion config
    exact ⟨noted, count, config.output, by rw [converts, log], cut⟩

theorem convertFrom_congr (s : Surroundings) {env env' : Environment}
    (same : env.value? "GROUP_ID" = env'.value? "GROUP_ID") :
    s.convertFrom env = s.convertFrom env' := by
  cases found : Config.ofValue? (env.value? "GROUP_ID") with
  | error error => rw [convertFrom_of_error found, convertFrom_of_error (same ▸ found)]
  | ok config => rw [convertFrom_of_ok found, convertFrom_of_ok (same ▸ found)]

end Surroundings

namespace Command.Machine

def onStream (lines : List String) : String := String.join (lines.map (· ++ "\n"))

theorem onStream_append (lines more : List String) :
    onStream (lines ++ more) = onStream lines ++ onStream more := by
  rw [onStream, List.map_append, String.join_append]
  rfl

variable (machine : Machine) {arguments : List Bytes}

def converted : Except Failure Conversion × Surroundings :=
  machine.surroundings.convertFrom machine.environment

/-- **What stands on the error stream after a run that converts**: what is wrong with the
specification of the log, the records that are shown, and the diagnosis. -/
theorem err_of_convert (h : Request.ofArguments arguments = .convert) :
    (machine.run arguments).2.err = machine.err ++ onStream (machine.warnings ++
      shownLines machine.filter machine.converted.2.log ++ diagnosis machine.converted.1) := by
  rw [machine.run_of_convert h, onStream_append, onStream_append, ← String.append_assoc,
    ← String.append_assoc]
  rfl

theorem out_of_convert (h : Request.ofArguments arguments = .convert) :
    (machine.run arguments).2.out = machine.converted.2.out := by
  rw [machine.run_of_convert h]
  rfl

/-! ## The log without a specification -/

/-- Without a specification warnings are shown, and what matters more. -/
theorem shows_of_unset (record : Log.Record) :
    (Log.Specification.ofValue none).filter.shows record =
      decide (record.level.rank ≤ Log.Level.warn.rank) :=
  Bool.and_true _

theorem shownLines_of_unset {noted : List Log.Record} {count : Nat} {path : Path}
    (cut : noted <+: Surroundings.records count path) :
    shownLines (Log.Specification.ofValue none).filter noted = [] := by
  have none_shown : ∀ record ∈ noted,
      ¬ (Log.Specification.ofValue none).filter.shows record = true := by
    intro record listed
    have one_of_two := cut.subset listed
    rw [shows_of_unset]
    simp only [Surroundings.records, List.mem_cons, List.not_mem_nil, or_false] at one_of_two
    rcases one_of_two with rfl | rfl <;> exact Bool.false_ne_true
  rw [shownLines, List.filter_eq_nil_iff.mpr none_shown, List.map_nil]

theorem warnings_of_unset (unset : machine.environment.value? "RUST_LOG" = none) :
    machine.warnings = [] := by
  rw [warnings, unset]
  rfl

theorem shown_of_unset (unset : machine.environment.value? "RUST_LOG" = none) :
    shownLines machine.filter machine.converted.2.log = [] := by
  obtain ⟨noted, count, path, log, cut⟩ :=
    machine.surroundings.records_of_run machine.environment
  have all_noted : machine.converted.2.log = noted := log
  rw [all_noted, filter, unset, shownLines_of_unset cut]

/-- **Without a specification of the log a run tells its diagnosis alone.** -/
theorem err_of_unset (h : Request.ofArguments arguments = .convert)
    (unset : machine.environment.value? "RUST_LOG" = none) :
    (machine.run arguments).2.err = machine.err ++ onStream (diagnosis machine.converted.1) := by
  rw [machine.err_of_convert h, machine.warnings_of_unset unset, machine.shown_of_unset unset,
    List.nil_append, List.nil_append]

theorem err_of_success (h : Request.ofArguments arguments = .convert)
    (unset : machine.environment.value? "RUST_LOG" = none)
    (zero : (machine.run arguments).1.status = 0) :
    (machine.run arguments).2.err = machine.err := by
  rw [machine.outcome_of_convert h, ← converted] at zero
  rw [machine.err_of_unset h unset]
  cases ends : machine.converted.1 with
  | ok conversion => exact String.append_empty
  | error failure =>
    rw [ends] at zero
    cases zero

/-! ## Runs that look at less than there is -/

/-- What a run that converts leaves behind, but for its error stream, is settled by the
conversion. -/
theorem run_of_same_conversion {machine machine' : Machine}
    (h : Request.ofArguments arguments = .convert) (same : machine.converted = machine'.converted) :
    (machine.run arguments).1 = (machine'.run arguments).1 ∧
      (machine.run arguments).2.out = (machine'.run arguments).2.out ∧
      (machine.run arguments).2.files = (machine'.run arguments).2.files := by
  refine ⟨?_, ?_, ?_⟩
  · rw [machine.outcome_of_convert h, machine'.outcome_of_convert h]
    exact congrArg (Outcome.ofConverted ·.1) same
  · rw [machine.out_of_convert h, machine'.out_of_convert h, same]
  · rw [machine.files_of_convert h, machine'.files_of_convert h]
    exact congrArg (·.2.files) same

theorem run_of_other_congr (h : Request.ofArguments arguments ≠ .convert)
    (environment : Environment) (files : FileSystem) :
    ({ machine with environment, files } : Machine).run arguments =
      ((machine.run arguments).1, { (machine.run arguments).2 with environment, files }) := by
  unfold run Host.run
  cases asked : Request.ofArguments arguments with
  | convert => exact absurd asked h
  | tell flag => rfl
  | refuse misuse => rfl

theorem run_of_same_streams {machine machine' : Machine}
    (h : Request.ofArguments arguments ≠ .convert) (out : machine.out = machine'.out)
    (err : machine.err = machine'.err) :
    (machine.run arguments).1 = (machine'.run arguments).1 ∧
      (machine.run arguments).2.err = (machine'.run arguments).2.err ∧
      (machine.run arguments).2.out = (machine'.run arguments).2.out := by
  have left := run_of_other_congr machine' h machine.environment machine.files
  have changed : ({ machine' with environment := machine.environment, files := machine.files } :
      Machine) = machine := by rw [← out, ← err]
  rw [changed] at left
  rw [left]
  exact ⟨rfl, rfl, rfl⟩

structure SameBut (name : String) (machine machine' : Machine) : Prop where
  files : machine.files = machine'.files
  out : machine.out = machine'.out
  err : machine.err = machine'.err
  others : ∀ other, other ≠ name →
    machine.environment.value? other = machine'.environment.value? other

variable {machine} {machine' : Machine} {name : String}

theorem sameBut_set (machine : Machine) (name : String) (value : Bytes) :
    SameBut name { machine with environment := machine.environment.set name value } machine :=
  ⟨rfl, rfl, rfl, fun _ other => Environment.value?_set_of_ne _ value other⟩

theorem SameBut.surroundings (same : SameBut name machine machine') :
    machine.surroundings = machine'.surroundings := by
  rw [Machine.surroundings, Machine.surroundings, same.files, same.out]

theorem SameBut.run_of_other (same : SameBut name machine machine')
    (h : Request.ofArguments arguments ≠ .convert) :
    (machine.run arguments).1 = (machine'.run arguments).1 ∧
      (machine.run arguments).2.err = (machine'.run arguments).2.err ∧
      (machine.run arguments).2.out = (machine'.run arguments).2.out ∧
      (machine.run arguments).2.files = (machine'.run arguments).2.files := by
  obtain ⟨outcome, err, out⟩ := run_of_same_streams h same.out same.err
  have files := (machine.run_of_other h).trans (same.files.trans (machine'.run_of_other h).symm)
  exact ⟨outcome, err, out, files⟩

end Command.Machine

end GroupKey
