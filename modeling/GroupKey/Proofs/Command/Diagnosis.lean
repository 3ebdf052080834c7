import GroupKey.Proofs.Command.Refinement
import GroupKey.Proofs.Conversion.Disclosure
import GroupKey.Proofs.Text.Controls

/-!
# What a run that fails tells

The diagnosis of a failure is a line with its message, and perhaps one with the cause behind it. No
value of the variable can add a line to it or bring in a control character: the one character that
is told of a value stands between quotes.

* `isPlain_defect`, `isPlain_system`: what is said about values and files has no control character;
* `plain_of_refused`: neither has what is said about a conversion that failed;
* `diagnosis_is_plain`: what stands on the error stream then.
-/

namespace GroupKey

open Text

theorem Hex.isPlain_defect (defect : Hex.Defect) : IsPlain defect.message := by
  cases defect with
  | oddLength => decide
  | invalidLength => decide
  | badDigit c index =>
    have words : IsPlain "Invalid character " ∧ IsPlain " at position " := by decide
    show IsPlain ("Invalid character " ++ String.ofList (Quoted.char c) ++ " at position " ++
      decimal index)
    rw [isPlain_append, isPlain_append, isPlain_append]
    exact ⟨⟨⟨words.1, isPlain_char c⟩, words.2⟩, isPlain_decimal index⟩

theorem IoError.isPlain_system (errno : Errno) : IsPlain (IoError.system errno).message := by
  have words : IsPlain errno.words := by cases errno <;> decide
  have brackets : IsPlain " (os error " ∧ IsPlain ")" := by decide
  rw [IoError.message, isPlain_append, isPlain_append, isPlain_append]
  exact ⟨⟨⟨words, brackets.1⟩, isPlain_decimal _⟩, brackets.2⟩

/-- A failure that is told without control characters, with one cause at most. -/
structure Failure.Plain (failure : Failure) (cause : Option String) : Prop where
  message : IsPlain failure.message
  only : failure.causes = cause.toList
  cause : ∀ words ∈ cause, IsPlain words

namespace Surroundings

variable {s : Surroundings} {env : Environment} {failure : Failure}

theorem isPlain_stopError (stdout : Command.Stdout) : IsPlain stdout.writer.stopError.message := by
  cases stdout with
  | ordinary => decide
  | full => exact IoError.isPlain_system .noSpace

theorem isPlain_writeError {fs : FileSystem} {p : Path} {content : Bytes} {cause : IoError}
    (refused : (fs.write p content).1 = .error cause) : IsPlain cause.message := by
  rcases FileSystem.write_error_cases refused with rfl | ⟨errno, rfl⟩
  · decide
  · exact IoError.isPlain_system errno

theorem plain_of_convert {config : Config} {stdout : Command.Stdout} (out : s.out = stdout.writer)
    (output : config.output = .ofString "key.der") (failed : (s.convert config).1 = .error failure) :
    ∃ cause, failure.Plain (some cause) := by
  cases s.course config with
  | unreadable unpaired =>
    obtain ⟨defect, _, _, ends⟩ := s.convert_unreadable unpaired
    rw [ends] at failed
    cases failed
    have message : IsPlain "environment variable GROUP_ID is not valid hex" := by decide
    exact ⟨defect.message, message, rfl, by simp [Hex.isPlain_defect]⟩
  | cutShort spells full =>
    rw [convert_cut_short spells full, out] at failed
    cases failed
    have message : IsPlain "failed to write to stdout" := by decide
    exact ⟨stdout.writer.stopError.message, message, rfl, by simp [isPlain_stopError]⟩
  | unflushed spells room refused =>
    rw [out] at refused
    cases stdout <;> cases refused
  | @unwritten _ error spells room passed refused =>
    rw [convert_unwritten spells room passed refused, output] at failed
    cases failed
    have message : IsPlain "failed to write key.der" := by decide
    exact ⟨error.message, message, rfl, by simp [isPlain_writeError refused]⟩
  | done spells room passed written =>
    rw [convert_done spells room passed written] at failed
    cases failed

/-- **A conversion that fails is told without control characters.** There is no cause exactly if
the variable is not set or holds no text. -/
theorem plain_of_refused {stdout : Command.Stdout} (out : s.out = stdout.writer)
    (failed : (s.convertFrom env).1 = .error failure) :
    ∃ cause, failure.Plain cause ∧ (cause = none ↔ env.value? "GROUP_ID" = none ∨
      ∃ raw, env.value? "GROUP_ID" = some raw ∧ ¬ Utf8.WellFormed raw) := by
  cases value : env.value? "GROUP_ID" with
  | none =>
    rw [convertFrom_of_error (by rw [value]; rfl)] at failed
    cases failed
    exact ⟨none, ⟨by decide, rfl, by simp⟩, by simp⟩
  | some raw =>
    by_cases text : Utf8.WellFormed raw
    · obtain ⟨config, chosen, _, output⟩ := Config.ofValue?_of_wellFormed text
      rw [← value] at chosen
      rw [convertFrom_of_ok chosen] at failed
      obtain ⟨cause, plain⟩ := plain_of_convert out output failed
      exact ⟨some cause, plain, by simp [text]⟩
    · rw [convertFrom_of_noText value text] at failed
      cases failed
      exact ⟨none, ⟨by decide, rfl, by simp⟩, by simp [text]⟩

end Surroundings

namespace Command.Machine

/-- **What stands on the error stream after a run that fails**: a line with the message, and perhaps
one with the cause, and no control character but at their ends, whatever the variable holds. There
is no cause exactly if the variable is not set or holds no text. -/
theorem diagnosis_is_plain (environment : Environment) (files : FileSystem) (stdout : Stdout)
    (arguments : List Bytes) (unset : environment.value? "RUST_LOG" = none)
    (asked : arguments = [] ∨ arguments = [Utf8.encode "--"]) :
    let machine : Machine := { environment, files, out := stdout.writer }
    let ran := machine.run arguments
    ran.1.status ≠ 0 →
      ∃ (message : String) (cause : Option String),
        ran.2.err = "error: " ++ message ++ "\n" ++
          String.join (cause.toList.map fun words => "caused by: " ++ words ++ "\n") ∧
        IsPlain message ∧ (∀ words ∈ cause, IsPlain words) ∧
        (cause = none ↔ environment.value? "GROUP_ID" = none ∨
          ∃ raw, environment.value? "GROUP_ID" = some raw ∧ ¬ Utf8.WellFormed raw) := by
  intro machine ran failed
  have h := asks_to_convert asked
  have outcome : ran.1 = _ := machine.outcome_of_convert h
  have told : ran.2.err = _ := machine.err_of_unset h unset
  rw [onStream_diagnosis] at told
  rw [← converted] at outcome
  cases ends : machine.converted.1 with
  | ok conversion =>
    rw [outcome, ends] at failed
    exact absurd rfl failed
  | error failure =>
    have out : machine.surroundings.out = stdout.writer := rfl
    obtain ⟨cause, plain, no_cause⟩ := Surroundings.plain_of_refused out ends
    refine ⟨failure.message, cause, ?_, plain.message, plain.cause, no_cause⟩
    rw [told, ends, ← plain.only]
    exact String.empty_append

/-- A value with an end of line and an escape in it. -/
theorem diagnosis_is_plain_of_escape :
    let environment : Environment := [("GROUP_ID", Utf8.encode "a\nb\x1b")]
    let machine : Machine := { environment, files := ⟨∅, []⟩, out := Stdout.ordinary.writer }
    let ran := machine.run []
    environment.value? "RUST_LOG" = none ∧ ran.1.status ≠ 0 ∧
      ∃ (message : String) (cause : Option String),
        ran.2.err = "error: " ++ message ++ "\n" ++
          String.join (cause.toList.map fun words => "caused by: " ++ words ++ "\n") ∧
        IsPlain message ∧ (∀ words ∈ cause, IsPlain words) ∧ cause ≠ none := by
  intro environment machine ran
  have unset : environment.value? "RUST_LOG" = none := by decide
  have failed : ran.1.status ≠ 0 := by decide
  obtain ⟨message, cause, told, plain, cause_plain, no_cause⟩ :=
    diagnosis_is_plain environment ⟨∅, []⟩ .ordinary [] unset (.inl rfl) failed
  have found : environment.value? "GROUP_ID" = some (Utf8.encode "a\nb\x1b") := by decide
  have text : Utf8.WellFormed (Utf8.encode "a\nb\x1b") := Utf8.wellFormed_iff.mpr ⟨_, rfl⟩
  refine ⟨unset, failed, message, cause, told, plain, cause_plain, fun absent => ?_⟩
  rw [found] at no_cause
  rcases no_cause.mp absent with missing | ⟨raw, same, no_text⟩
  · cases missing
  · cases same
    exact no_text text

example : (({ environment := [("GROUP_ID", Utf8.encode "a\nb\x1b")], files := ⟨∅, []⟩ } :
    Machine).run []).2.err = "error: environment variable GROUP_ID is not valid hex\n" ++
      "caused by: Invalid character '\\n' at position 1\n" := by decide

end Command.Machine

end GroupKey
