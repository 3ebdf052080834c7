import GroupKey.Proofs.Command.Streams
import GroupKey.Proofs.Environment
import Mathlib.Data.List.TakeDrop

/-!
# The command and the conversion it runs

* `convertFrom_succeeds_iff`: when the key of an environment is converted;
* `run_refines_conversion`: a run of the command does what the conversion does, and tells it by its
  status and its streams.
-/

namespace GroupKey

namespace Surroundings

theorem accepted_line_iff {s : Surroundings} {config : Config} {bytes : Bytes}
    (spells : Hex.Spells config.digits bytes) :
    (s.convert config).2.out.accepted = s.out.accepted ++ config.line ↔
      s.out.HasRoom config.line.length := by
  have bound := s.out.capacity_le config.line.length
  rw [accepted_of_spells spells, List.append_cancel_left_eq, List.take_eq_self_iff,
    ← s.out.capacity_eq_iff (line_positive config)]
  omega

theorem convertFrom_succeeds_iff (s : Surroundings) (env : Environment) :
    (∃ conversion, (s.convertFrom env).1 = .ok conversion) ↔
      s.out.flushError = none ∧
      ∃ raw bytes, env.value? "GROUP_ID" = some raw ∧ Hex.Spells raw bytes ∧
        (s.convertFrom env).2.out.accepted =
          s.out.accepted ++ (Utf8.encode "GROUP_ID=" ++ raw ++ [0x0A]) ∧
        (s.files.write (.ofString "key.der") bytes).1 = .ok () ∧
        (s.convertFrom env).2.files = (s.files.write (.ofString "key.der") bytes).2 := by
  constructor
  · rintro ⟨conversion, done⟩
    rcases s.convertFrom_cases env with ⟨error, refused⟩ | ⟨config, found, converts⟩
    · rw [refused] at done
      cases done
    · rw [converts] at done ⊢
      obtain ⟨raw, value, text, output⟩ := Config.ofValue?_eq_ok_iff.mp found
      obtain ⟨spells, _, room, passed, written, left⟩ := convert_eq_ok done
      have delivered := (accepted_line_iff spells).mpr room
      rw [config.line_eq_digits, Config.digits, text] at delivered
      rw [output] at written left
      rw [Config.digits, text] at spells
      exact ⟨passed, raw, conversion.bytes, value, spells, delivered, written, by rw [left]⟩
  · rintro ⟨passed, raw, bytes, value, spells, delivered, written, _⟩
    obtain ⟨config, found, digits, output⟩ :=
      Config.ofValue?_of_wellFormed (Hex.paired_of_spells spells).wellFormed
    rw [← value] at found
    have converts := s.convertFrom_of_ok found
    rw [converts, ← digits, ← config.line_eq_digits] at delivered
    rw [← digits] at spells
    rw [← output] at written
    have room := (accepted_line_iff spells).mp delivered
    rw [converts, convert_done spells room passed written]
    exact ⟨_, rfl⟩

end Surroundings

namespace Command

inductive Stdout where
  | ordinary
  | full
  deriving DecidableEq, Repr

def Stdout.writer : Stdout → Writer
  | .ordinary => {}
  | .full => .fullDevice

namespace Machine

/-- The machine that a run is started on, with nothing on its streams. -/
def started (settings : List (String × Bytes)) (files : FileSystem) (stdout : Stdout) : Machine :=
  { environment := .ofSettings settings, files, out := stdout.writer }

/-- A run does what a conversion does: it leaves the same tree, its standard output is what the
writer has taken, its status tells whether the conversion succeeded, and its error stream tells why
it did not, the failure first and then its causes. -/
structure Refines (ran : Outcome × Machine)
    (library : Except Failure Conversion × Surroundings) : Prop where
  files : ran.2.files = library.2.files
  printed : ran.2.out.accepted = library.2.out.accepted
  status : ran.1.status =
    match library.1 with
    | .ok _ => 0
    | .error _ => 1
  told : ran.2.err =
    match library.1 with
    | .ok _ => ""
    | .error failure =>
      "error: " ++ failure.message ++ "\n" ++
        String.join (failure.causes.map fun cause => "caused by: " ++ cause ++ "\n")

variable {settings : List (String × Bytes)} {files : FileSystem} {stdout : Stdout}
  {arguments : List Bytes}

theorem asks_to_convert (asked : arguments = [] ∨ arguments = [Utf8.encode "--"]) :
    Request.ofArguments arguments = .convert := by
  rcases asked with rfl | rfl <;> decide

theorem onStream_diagnosis (converted : Except Failure Conversion) :
    onStream (diagnosis converted) =
      match converted with
      | .ok _ => ""
      | .error failure =>
        "error: " ++ failure.message ++ "\n" ++
          String.join (failure.causes.map fun cause => "caused by: " ++ cause ++ "\n") := by
  cases converted with
  | ok conversion => rfl
  | error failure =>
    rw [diagnosis, Failure.report, onStream, List.map_cons, List.map_map, String.join_cons]
    rfl

theorem converted_started (distinct : (settings.map Prod.fst).Nodup) :
    (started settings files stdout).converted =
      Surroundings.convertFrom { files, out := stdout.writer } settings :=
  Surroundings.convertFrom_congr _ (Environment.value?_ofSettings_of_distinct distinct "GROUP_ID")

theorem refines_of_unset (distinct : (settings.map Prod.fst).Nodup)
    (unset : Environment.value? "RUST_LOG" settings = none)
    (h : Request.ofArguments arguments = .convert) :
    Refines ((started settings files stdout).run arguments)
      (Surroundings.convertFrom { files, out := stdout.writer } settings) := by
  have unset_there : (started settings files stdout).environment.value? "RUST_LOG" = none :=
    (Environment.value?_ofSettings_of_distinct distinct "RUST_LOG").trans unset
  have outcome := (started settings files stdout).outcome_of_convert h
  have tree := (started settings files stdout).files_of_convert h
  have out := (started settings files stdout).out_of_convert h
  have err := (started settings files stdout).err_of_unset h unset_there
  rw [← converted] at outcome tree
  rw [converted_started distinct] at outcome tree out err
  refine ⟨tree, by rw [out], ?_, ?_⟩
  · rw [outcome]
    cases (Surroundings.convertFrom { files, out := stdout.writer } settings).1 <;> rfl
  · rw [err, onStream_diagnosis]
    exact String.empty_append

/-- A full device takes no byte of a line, so nothing is written to a file. -/
theorem files_of_full {files : FileSystem} (env : Environment) :
    (Surroundings.convertFrom { files, out := .fullDevice } env).2.files = files := by
  cases ends : (Surroundings.convertFrom { files, out := .fullDevice } env).1 with
  | error failure => exact Surroundings.files_of_refusal ends
  | ok conversion =>
    rcases Surroundings.convertFrom_cases { files, out := .fullDevice } env with
      ⟨error, refused⟩ | ⟨config, _, converts⟩
    · rw [refused] at ends
      cases ends
    · rw [converts] at ends
      obtain ⟨_, _, room, _⟩ := Surroundings.convert_eq_ok ends
      have none_left := room.room 0 rfl
      rw [config.length_line] at none_left
      omega

/-- **A run of the command does what the conversion does** of what its settings hold, and tells it by
its status and its streams. Its status is zero exactly when the digits in the variable pair up, the
line was delivered and the bytes were written; and if the standard output is full the tree stays as
it is. -/
theorem run_refines_conversion (settings : List (String × Bytes)) (files : FileSystem)
    (stdout : Stdout) (arguments : List Bytes) (distinct : (settings.map Prod.fst).Nodup)
    (unset : Environment.value? "RUST_LOG" settings = none)
    (asked : arguments = [] ∨ arguments = [Utf8.encode "--"]) :
    let ran := (started settings files stdout).run arguments
    Refines ran (Surroundings.convertFrom { files, out := stdout.writer } settings) ∧
    (ran.1.status = 0 ↔
      ∃ raw bytes, Environment.value? "GROUP_ID" settings = some raw ∧ Hex.Spells raw bytes ∧
        ran.2.out.accepted = Utf8.encode "GROUP_ID=" ++ raw ++ [0x0A] ∧
        (files.write (.ofString "key.der") bytes).1 = .ok () ∧
        ran.2.files = (files.write (.ofString "key.der") bytes).2) ∧
    (stdout = .full → ran.2.files = files) := by
  intro ran
  have refines : Refines ran (Surroundings.convertFrom { files, out := stdout.writer } settings) :=
    refines_of_unset distinct unset (asks_to_convert asked)
  have passed : stdout.writer.flushError = none := by cases stdout <;> rfl
  have nothing_yet : stdout.writer.accepted = [] := by cases stdout <;> rfl
  have succeeds :=
    Surroundings.convertFrom_succeeds_iff { files, out := stdout.writer } settings
  rw [nothing_yet, ← refines.printed, ← refines.files] at succeeds
  refine ⟨refines, ?_, ?_⟩
  · have zero : ran.1.status = 0 ↔ ∃ conversion,
        (Surroundings.convertFrom { files, out := stdout.writer } settings).1 = .ok conversion := by
      rw [refines.status]
      cases (Surroundings.convertFrom { files, out := stdout.writer } settings).1 <;> simp
    rw [zero, succeeds]
    exact and_iff_right passed
  · rintro rfl
    exact refines.files.trans (files_of_full settings)

/-- A key that could be converted, and a standard output that is full. -/
theorem run_refines_conversion_full :
    let settings := [("HOME", Utf8.encode "/"), ("GROUP_ID", Utf8.encode "dEaD")]
    let files : FileSystem := ⟨∅, []⟩
    let ran := (started settings files .full).run [Utf8.encode "--"]
    (settings.map Prod.fst).Nodup ∧ Environment.value? "RUST_LOG" settings = none ∧
      Refines ran (Surroundings.convertFrom { files, out := .fullDevice } settings) ∧
      ran.2.files = files := by
  intro settings files ran
  have distinct : (settings.map Prod.fst).Nodup := by decide
  have unset : Environment.value? "RUST_LOG" settings = none := by decide
  obtain ⟨refines, _, full⟩ :=
    run_refines_conversion settings files .full [Utf8.encode "--"] distinct unset (.inr rfl)
  exact ⟨distinct, unset, refines, full rfl⟩

end Machine

end Command

end GroupKey
