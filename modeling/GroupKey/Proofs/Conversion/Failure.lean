import GroupKey.Proofs.Conversion.Stages

/-!
# Conversions that fail

A failure tells how far the conversion got: what comes after the first stage that fails is left
alone, whether it would have failed too or not.

* `convert_of_unreadable`: without a key nothing is asked of any outlet;
* `convert_fails_iff`: which failure is reported when, and what is left then.
-/

namespace GroupKey

theorem Config.convert_of_unreadable {config : Config} {error : InputError}
    (h : config.key = .error error) {m : Type → Type} [Monad m] [LawfulMonad m]
    (outlet : Outlet m) :
    (config.convert outlet).run = pure (.error (.input error)) := by
  rw [Config.convert, h, ExceptT.run_bind]
  exact pure_bind _ _

namespace Surroundings

/-- What a conversion leaves that stopped at the key: everything as it was. Nothing was asked of its
outlet, nor would be of any other. -/
structure StoppedAtKey (before : Surroundings) (config : Config) (error : InputError)
    (after : Surroundings) : Prop where
  kind : (Failure.input error).kind = .invalidInput
  found : ∃ defect, Hex.decode config.groupId = .error defect ∧ error = .notHex "GROUP_ID" defect
  untouched : after = before
  unasked : ∀ (m : Type → Type) [Monad m] [LawfulMonad m] (outlet : Outlet m),
    (config.convert outlet).run = pure (.error (.input error))

/-- What a conversion leaves that stopped at the line. Either the writer gave up before the end of
the line and was not flushed, or it took the whole line and could not pass it on. -/
structure StoppedAtLine (before : Surroundings) (config : Config) (cause : IoError)
    (after : Surroundings) : Prop where
  kind : (Failure.stdout cause).kind = .io
  paired : Hex.Paired config.digits
  files : after.files = before.files
  log : after.log = before.log ++
    [{ level := .debug
       target := "derhex2bin_lib"
       text := "decoded " ++ decimal (config.digits.length / 2) ++ " bytes, writing to " ++
         Utf8.lossy config.output.bytes }]
  line :
    (¬ before.out.HasRoom (config.digits.length + 10) ∧ cause = before.out.stopError ∧
      ∃ taken, taken <+: config.line ∧ taken ≠ config.line ∧ 0x0A ∉ taken ∧
        after.out.accepted = before.out.accepted ++ taken ∧
        after.out.flushes = before.out.flushes) ∨
    (before.out.HasRoom (config.digits.length + 10) ∧ before.out.flushError = some cause ∧
      after.out.accepted = before.out.accepted ++ config.line ∧
      after.out.flushes = before.out.flushes + 1)

/-- What a conversion leaves that stopped at the file: the line is out, and the tree is as it
was. -/
structure StoppedAtFile (before : Surroundings) (config : Config) (path : Path) (cause : IoError)
    (after : Surroundings) : Prop where
  kind : (Failure.file path cause).kind = .io
  named : path = config.output
  room : before.out.HasRoom (config.digits.length + 10)
  passed : before.out.flushError = none
  refused : ∃ bytes, Hex.Spells config.digits bytes ∧
    (before.writeKey config.output bytes).1 = .error (.file path cause)
  files : after.files = before.files
  log : after.log = before.log ++
    [{ level := .debug
       target := "derhex2bin_lib"
       text := "decoded " ++ decimal (config.digits.length / 2) ++ " bytes, writing to " ++
         Utf8.lossy config.output.bytes }]
  accepted : after.out.accepted = before.out.accepted ++ config.line
  flushes : after.out.flushes = before.out.flushes + 1

def Stopped (before : Surroundings) (config : Config) (after : Surroundings) : Failure → Prop
  | .input error => StoppedAtKey before config error after
  | .stdout cause => StoppedAtLine before config cause after
  | .file path cause => StoppedAtFile before config path cause after

variable {s : Surroundings} {config : Config} {bytes : Bytes}

/-- What is cut off a line includes its end. -/
theorem newline_notMem_of_cut {taken : Bytes} (paired : Hex.Paired config.digits)
    (cut : taken <+: config.line) (short : taken ≠ config.line) : 0x0A ∉ taken := by
  rw [config.line_eq_digits] at cut short
  rcases List.prefix_concat_iff.mp cut with whole | inside
  · exact absurd whole short
  · exact fun found => Config.newline_notMem paired (inside.subset found)

theorem stoppedAtLine_of_full (spells : Hex.Spells config.digits bytes)
    (full : ¬ s.out.HasRoom config.line.length) :
    StoppedAtLine s config s.out.stopError (s.convert config).2 := by
  have paired := Hex.paired_of_spells spells
  have positive := line_positive config
  have less := s.out.capacity_le config.line.length
  have short : s.out.capacity config.line.length ≠ config.line.length :=
    fun fits => full ((s.out.capacity_eq_iff positive).mp fits)
  have cut : config.line.take (s.out.capacity config.line.length) ≠ config.line := by
    intro same
    have length := congrArg List.length same
    rw [List.length_take] at length
    omega
  rw [convert_cut_short spells full]
  exact {
    kind := rfl
    paired := paired
    files := rfl
    log := log_begun spells
    line := .inl ⟨config.length_line ▸ full, rfl, _, List.take_prefix _ _, cut,
      newline_notMem_of_cut paired (List.take_prefix _ _) cut, rfl, rfl⟩ }

theorem stoppedAtLine_of_refused (spells : Hex.Spells config.digits bytes)
    (room : s.out.HasRoom config.line.length) {cause : IoError}
    (refused : s.out.flushError = some cause) :
    StoppedAtLine s config cause (s.convert config).2 := by
  rw [convert_unflushed spells room refused]
  exact {
    kind := rfl
    paired := Hex.paired_of_spells spells
    files := rfl
    log := log_begun spells
    line := .inr ⟨config.length_line ▸ room, refused, rfl, rfl⟩ }

theorem stoppedAtFile_of_refused (spells : Hex.Spells config.digits bytes)
    (room : s.out.HasRoom config.line.length) (passed : s.out.flushError = none) {cause : IoError}
    (refused : (s.files.write config.output bytes).1 = .error cause) :
    StoppedAtFile s config config.output cause (s.convert config).2 := by
  rw [convert_unwritten spells room passed refused]
  exact {
    kind := rfl
    named := rfl
    room := config.length_line ▸ room
    passed := passed
    refused := ⟨bytes, spells, writeKey_eq_error_iff.mpr ⟨cause, refused, rfl⟩⟩
    files := rfl
    log := log_begun spells
    accepted := rfl
    flushes := rfl }

theorem stopped_of_error {failure : Failure} (h : (s.convert config).1 = .error failure) :
    Stopped s config (s.convert config).2 failure := by
  cases s.course config with
  | unreadable unpaired =>
    obtain ⟨defect, found, no_key, ends⟩ := s.convert_unreadable unpaired
    rw [ends] at h ⊢
    cases h
    exact ⟨rfl, ⟨defect, found, rfl⟩, rfl,
      fun m _ _ outlet => Config.convert_of_unreadable no_key outlet⟩
  | cutShort spells full =>
    have stopped := stoppedAtLine_of_full spells full
    rw [convert_cut_short spells full] at h
    cases h
    exact stopped
  | unflushed spells room refused =>
    have stopped := stoppedAtLine_of_refused spells room refused
    rw [convert_unflushed spells room refused] at h
    cases h
    exact stopped
  | unwritten spells room passed refused =>
    have stopped := stoppedAtFile_of_refused spells room passed refused
    rw [convert_unwritten spells room passed refused] at h
    cases h
    exact stopped
  | done spells room passed written =>
    rw [convert_done spells room passed written] at h
    cases h

theorem files_of_error {failure : Failure} (h : (s.convert config).1 = .error failure) :
    (s.convert config).2.files = s.files := by
  have stopped := stopped_of_error h
  cases failure with
  | input error => rw [StoppedAtKey.untouched stopped]
  | stdout cause => exact StoppedAtLine.files stopped
  | file path cause => exact StoppedAtFile.files stopped

theorem unpaired_of_defect {defect : Hex.Defect}
    (found : Hex.decode config.groupId = .error defect) : ¬ Hex.Paired config.digits := by
  intro paired
  obtain ⟨bytes, spells⟩ := Hex.exists_spells_iff.mpr paired
  rw [Hex.decode_eq_ok_iff.mpr spells] at found
  cases found

theorem exists_input_iff :
    (∃ error, (s.convert config).1 = .error (.input error)) ↔ ¬ Hex.Paired config.digits := by
  constructor
  · rintro ⟨error, h⟩
    have stopped : StoppedAtKey s config error (s.convert config).2 := stopped_of_error h
    obtain ⟨defect, found, _⟩ := stopped.found
    exact unpaired_of_defect found
  · intro unpaired
    obtain ⟨defect, _, _, ends⟩ := s.convert_unreadable unpaired
    exact ⟨_, by rw [ends]⟩

theorem exists_stdout_iff :
    (∃ cause, (s.convert config).1 = .error (.stdout cause)) ↔
      Hex.Paired config.digits ∧
        ¬ (s.out.HasRoom (config.digits.length + 10) ∧ s.out.flushError = none) := by
  constructor
  · rintro ⟨cause, h⟩
    have stopped : StoppedAtLine s config cause (s.convert config).2 := stopped_of_error h
    refine ⟨stopped.paired, fun ⟨room, passed⟩ => ?_⟩
    rcases stopped.line with ⟨full, _⟩ | ⟨_, refused, _⟩
    · exact full room
    · rw [passed] at refused
      cases refused
  · rintro ⟨paired, undelivered⟩
    obtain ⟨bytes, spells⟩ := Hex.exists_spells_iff.mpr paired
    rw [← config.length_line] at undelivered
    by_cases room : s.out.HasRoom config.line.length
    · cases refused : s.out.flushError with
      | none => exact absurd ⟨room, refused⟩ undelivered
      | some cause => exact ⟨cause, by rw [convert_unflushed spells room refused]⟩
    · exact ⟨s.out.stopError, by rw [convert_cut_short spells room]⟩

theorem exists_file_iff :
    (∃ path cause, (s.convert config).1 = .error (.file path cause)) ↔
      Hex.Paired config.digits ∧ s.out.HasRoom (config.digits.length + 10) ∧
        s.out.flushError = none ∧
        ∃ bytes failure, Hex.Spells config.digits bytes ∧
          (s.writeKey config.output bytes).1 = .error failure := by
  constructor
  · rintro ⟨path, cause, h⟩
    have stopped : StoppedAtFile s config path cause (s.convert config).2 := stopped_of_error h
    obtain ⟨bytes, spells, refused⟩ := stopped.refused
    exact ⟨Hex.paired_of_spells spells, stopped.room, stopped.passed, bytes, _, spells, refused⟩
  · rintro ⟨_, room, passed, bytes, failure, spells, refused⟩
    rw [← config.length_line] at room
    obtain ⟨cause, refused, _⟩ := writeKey_eq_error_iff.mp refused
    exact ⟨config.output, cause, by rw [convert_unwritten spells room passed refused]⟩

/-- **Which failure is reported when, and what is left then.** The first stage that fails decides:
the key, the line and the file come in this order, and whether a later stage would have failed too
makes no difference. -/
theorem convert_fails_iff (s : Surroundings) (config : Config) :
    ((∃ error, (s.convert config).1 = .error (.input error)) ↔ ¬ Hex.Paired config.digits) ∧
    ((∃ cause, (s.convert config).1 = .error (.stdout cause)) ↔
      Hex.Paired config.digits ∧
        ¬ (s.out.HasRoom (config.digits.length + 10) ∧ s.out.flushError = none)) ∧
    ((∃ path cause, (s.convert config).1 = .error (.file path cause)) ↔
      Hex.Paired config.digits ∧ s.out.HasRoom (config.digits.length + 10) ∧
        s.out.flushError = none ∧
        ∃ bytes failure, Hex.Spells config.digits bytes ∧
          (s.writeKey config.output bytes).1 = .error failure) ∧
    ∀ failure, (s.convert config).1 = .error failure →
      Stopped s config (s.convert config).2 failure :=
  ⟨exists_input_iff, exists_stdout_iff, exists_file_iff, fun _ => stopped_of_error⟩

/-- The writer has no room for the last byte of the line, and the tree has no place for the file:
the line comes first. -/
theorem convert_fails_without_room :
    let s : Surroundings := { files := ⟨∅, []⟩, out := { room := some 13 } }
    let config : Config := ⟨"dEaD", .ofString "absent/key.der"⟩
    (s.convert config).1 = .error (.stdout .noRoom) ∧
      Stopped s config (s.convert config).2 (.stdout .noRoom) := by
  intro s config
  have spells : Hex.Spells config.digits [0xDE, 0xAD] := Hex.decode_eq_ok_iff.mp (by decide)
  have full : ¬ s.out.HasRoom config.line.length := fun h => absurd (h.room 13 rfl) (by decide)
  have ends : (s.convert config).1 = .error (.stdout .noRoom) := by
    rw [convert_cut_short spells full]
    rfl
  exact ⟨ends, (convert_fails_iff s config).2.2.2 _ ends⟩

end Surroundings

end GroupKey
