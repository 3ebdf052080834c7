import GroupKey.Proofs.Conversion.Stages

/-!
# Conversions that succeed

* `convert_eq_ok`: a conversion that succeeds has passed every stage;
* `convert_succeeds_iff`: when a conversion succeeds, and what it has done then.
-/

namespace GroupKey.Surroundings

/-- What a successful conversion leaves. The digits are spelled by the bytes, the line stands on the
output as it was given and was passed on once, the log has one record of the key that was read
and one of the file that was written, and the place that the path leads to has the bytes, unless a device is there. -/
structure Succeeded (before : Surroundings) (config : Config) (conversion : Conversion)
    (after : Surroundings) : Prop where
  bytes : Hex.Spells config.digits conversion.bytes
  path : conversion.path = config.output
  accepted : after.out.accepted = before.out.accepted ++ config.line
  newline : ∃ text, config.line = text ++ [0x0A] ∧ 0x0A ∉ text
  flushes : after.out.flushes = before.out.flushes + 1
  log : after.log = before.log ++
    [{ level := .debug
       target := "derhex2bin_lib"
       text := "decoded " ++ decimal (config.digits.length / 2) ++ " bytes, writing to " ++
         Utf8.lossy config.output.bytes },
     { level := .info
       target := "derhex2bin_lib"
       text := "wrote " ++ decimal (config.digits.length / 2) ++ " bytes to " ++
         Utf8.lossy config.output.bytes }]
  file : ∃ place, before.files.destination config.output = .ok place ∧
    before.files.Updated place conversion.bytes after.files

variable {s : Surroundings} {config : Config} {conversion : Conversion}

theorem convert_eq_ok (h : (s.convert config).1 = .ok conversion) :
    Hex.Spells config.digits conversion.bytes ∧ conversion.path = config.output ∧
      s.out.HasRoom config.line.length ∧ s.out.flushError = none ∧
      (s.files.write config.output conversion.bytes).1 = .ok () ∧
      (s.convert config).2 =
        { out := s.flushed config, files := (s.files.write config.output conversion.bytes).2,
          log := s.log ++ [Log.decoded conversion.bytes.length config.output,
            Log.wrote conversion.bytes.length config.output] } := by
  cases s.course config with
  | unreadable unpaired =>
    obtain ⟨defect, _, _, ends⟩ := s.convert_unreadable unpaired
    rw [ends] at h
    cases h
  | cutShort spells full =>
    rw [convert_cut_short spells full] at h
    cases h
  | unflushed spells room refused =>
    rw [convert_unflushed spells room refused] at h
    cases h
  | unwritten spells room passed refused =>
    rw [convert_unwritten spells room passed refused] at h
    cases h
  | done spells room passed written =>
    have ends := convert_done spells room passed written
    rw [ends] at h
    cases h
    exact ⟨spells, rfl, room, passed, written, by rw [ends]⟩

theorem succeeded_of_ok (h : (s.convert config).1 = .ok conversion) :
    Succeeded s config conversion (s.convert config).2 := by
  obtain ⟨spells, path, _, _, written, left⟩ := convert_eq_ok h
  obtain ⟨place, leads, updated⟩ := FileSystem.write_of_ok written
  rw [left]
  exact {
    bytes := spells
    path := path
    accepted := rfl
    newline := ⟨_, config.line_eq_digits, Config.newline_notMem (Hex.paired_of_spells spells)⟩
    flushes := rfl
    log := by
      rw [spells.length_eq]
      rfl
    file := ⟨place, leads, updated⟩ }

/-- **When a conversion succeeds, and what it has done then.** The digits have to pair up, the
writer needs room for the line, which is ten bytes longer than the digits, the writer has to pass
the line on, and the file has to be one that can be written. No more is needed, whatever the slices
in which the writer takes the line, as long as it takes something in each. -/
theorem convert_succeeds_iff (s : Surroundings) (config : Config) :
    ((∃ conversion, (s.convert config).1 = .ok conversion) ↔
      Hex.Paired config.digits ∧ s.out.HasRoom (config.digits.length + 10) ∧
        s.out.flushError = none ∧
        ∃ bytes, Hex.Spells config.digits bytes ∧ (s.writeKey config.output bytes).1 = .ok ()) ∧
    ∀ conversion, (s.convert config).1 = .ok conversion →
      Succeeded s config conversion (s.convert config).2 := by
  refine ⟨⟨?_, ?_⟩, fun conversion => succeeded_of_ok⟩
  · rintro ⟨conversion, h⟩
    obtain ⟨spells, _, room, passed, written, _⟩ := convert_eq_ok h
    rw [config.length_line] at room
    exact ⟨Hex.paired_of_spells spells, room, passed, conversion.bytes, spells,
      writeKey_eq_ok_iff.mpr written⟩
  · rintro ⟨_, room, passed, bytes, spells, written⟩
    rw [← config.length_line] at room
    have ends := convert_done spells room passed (writeKey_eq_ok_iff.mp written)
    exact ⟨⟨bytes, config.output⟩, by rw [ends]⟩

/-- A tree with nothing but its root, and a writer that takes everything. -/
def bare : Surroundings := { files := ⟨∅, []⟩ }

theorem convert_succeeds_in_bare :
    (bare.convert (.ofKey "dEaD")).1 = .ok ⟨[0xDE, 0xAD], Config.defaultOutput⟩ ∧
      Succeeded bare (.ofKey "dEaD") ⟨[0xDE, 0xAD], Config.defaultOutput⟩
        (bare.convert (.ofKey "dEaD")).2 := by
  have spells : Hex.Spells (Config.ofKey "dEaD").digits [0xDE, 0xAD] :=
    Hex.decode_eq_ok_iff.mp (by decide)
  have room : bare.out.HasRoom (Config.ofKey "dEaD").line.length := ⟨by decide, by simp [bare]⟩
  have done : (bare.convert (.ofKey "dEaD")).1 = .ok ⟨[0xDE, 0xAD], Config.defaultOutput⟩ := by
    rw [convert_done spells room rfl rfl]
    rfl
  exact ⟨done, (convert_succeeds_iff bare (.ofKey "dEaD")).2 _ done⟩

end GroupKey.Surroundings
