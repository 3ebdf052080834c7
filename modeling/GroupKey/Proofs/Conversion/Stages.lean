import GroupKey.Proofs.Files.Change
import GroupKey.Proofs.Hex.Spelling
import GroupKey.Proofs.Text.WellFormed
import GroupKey.Proofs.Writer.Delivery
import GroupKey.Surroundings

/-!
# The stages of a conversion

A conversion reads the key, delivers the confirmation line, and writes the file. What it comes to
when a stage fails, and what it comes to when none does:

* `convert_unreadable`: the digits do not pair up;
* `convert_cut_short`: the writer has no room for the line;
* `convert_unflushed`: the writer has taken the line and cannot pass it on;
* `convert_unwritten`: the file cannot be written;
* `convert_done`: the key is in the file.

One of these is the course of every conversion (`course`). Conversions of one text whose files are
written alike take the same course (`convert_congr`).
-/

namespace GroupKey

namespace Config

def digits (config : Config) : Bytes := Utf8.encode config.groupId

/-- The bytes that confirm a conversion, up to the end of the line. -/
def line (config : Config) : Bytes := Utf8.encode ("GROUP_ID=" ++ config.groupId ++ "\n")

theorem line_eq (config : Config) :
    config.line = Utf8.encode (confirmationLine config.groupId) ++ Utf8.encode "\n" := by
  rw [← Utf8.encode_append]
  rfl

theorem line_eq_digits (config : Config) :
    config.line = Utf8.encode "GROUP_ID=" ++ config.digits ++ [0x0A] := by
  unfold line digits
  rw [Utf8.encode_append, Utf8.encode_append]
  rfl

theorem length_line (config : Config) : config.line.length = config.digits.length + 10 := by
  have name : (Utf8.encode "GROUP_ID=").length = 9 := by decide
  rw [line_eq_digits, List.length_append, List.length_append, name, List.length_singleton]
  omega

theorem key_eq_ok_iff {config : Config} {bytes : Bytes} :
    config.key = .ok bytes ↔ Hex.Spells config.digits bytes := by
  rw [digits, ← Hex.decode_eq_ok_iff, key, readKey]
  cases Hex.decode config.groupId with
  | error defect => exact iff_of_false (by simp [Except.mapError]) (by simp)
  | ok found => simp [Except.mapError]

theorem exists_key_error {config : Config} (h : ¬ Hex.Paired config.digits) :
    ∃ defect, Hex.decode config.groupId = .error defect ∧
      config.key = .error (.notHex keyVariable defect) := by
  obtain ⟨defect, found⟩ := Hex.exists_decode_error h
  exact ⟨defect, found, by rw [key, readKey, found]; rfl⟩

/-- In a line with a key that can be read the end of the line is the only one. -/
theorem newline_notMem {config : Config} (h : Hex.Paired config.digits) :
    0x0A ∉ Utf8.encode "GROUP_ID=" ++ config.digits := by
  have name : 0x0A ∉ Utf8.encode "GROUP_ID=" := by decide
  intro found
  rcases List.mem_append.mp found with found | found
  · exact name found
  · exact absurd (Hex.isDigit_bounds (h.digits _ found)).1 (by decide)

end Config

namespace Surroundings

def told (s : Surroundings) (config : Config) : Writer := s.out.settled.take config.line

def flushed (s : Surroundings) (config : Config) : Writer :=
  { s.told config with flushError := none, flushes := s.out.flushes + 1 }

def begun (s : Surroundings) (config : Config) (bytes : Bytes) : Surroundings :=
  { s with log := s.log ++ [Log.decoded bytes.length config.output] }

theorem writeKey_eq_ok_iff {s : Surroundings} {path : Path} {bytes : Bytes} :
    (s.writeKey path bytes).1 = .ok () ↔ (s.files.write path bytes).1 = .ok () := by
  rw [writeKey, run_writeKey]
  cases (s.files.write path bytes).1 <;> simp [Except.mapError]

theorem writeKey_eq_error_iff {s : Surroundings} {path : Path} {bytes : Bytes} {failure : Failure} :
    (s.writeKey path bytes).1 = .error failure ↔
      ∃ cause, (s.files.write path bytes).1 = .error cause ∧ failure = .file path cause := by
  rw [writeKey, run_writeKey]
  cases (s.files.write path bytes).1 <;> simp [Except.mapError, eq_comm]

variable {s : Surroundings} {config : Config} {bytes : Bytes}

theorem log_begun (h : Hex.Spells config.digits bytes) :
    (s.begun config bytes).log = s.log ++
      [{ level := .debug
         target := "derhex2bin_lib"
         text := "decoded " ++ decimal (config.digits.length / 2) ++ " bytes, writing to " ++
           Utf8.lossy config.output.bytes }] := by
  rw [begun, h.length_eq]
  rfl

/-- The two parts of the line are printed as one. -/
theorem convert_of_spells (h : Hex.Spells config.digits bytes) :
    s.convert config =
      match s.out.writeAll config.line with
      | (.error error, out) => (.error (.stdout error), { s.begun config bytes with out })
      | (.ok _, out) =>
        match out.flush with
        | (.error error, out) => (.error (.stdout error), { s.begun config bytes with out })
        | (.ok _, out) =>
          match s.files.write config.output bytes with
          | (.error error, files) =>
            (.error (.file config.output error), { s.begun config bytes with out, files })
          | (.ok _, files) =>
            (.ok ⟨bytes, config.output⟩,
              { out, files,
                log := (s.begun config bytes).log ++ [Log.wrote bytes.length config.output] }) := by
  have name : Utf8.encode (confirmationLine config.groupId) ≠ [] := by
    unfold confirmationLine
    rw [Utf8.encode_append, Utf8.encode_append]
    exact List.append_ne_nil_of_left_ne_nil (by decide) _
  have newline : Utf8.encode "\n" ≠ [] := by decide
  rw [convert_of_key_ok (Config.key_eq_ok_iff.mpr h), Config.line_eq,
    Writer.writeAll_append _ name newline]
  rcases s.out.writeAll (Utf8.encode (confirmationLine config.groupId)) with ⟨_ | _, _⟩ <;> rfl

theorem line_positive (config : Config) : 0 < config.line.length := by
  rw [config.length_line]
  omega

theorem writeAll_line_of_room (room : s.out.HasRoom config.line.length) :
    s.out.writeAll config.line = (.ok (), s.told config) := by
  have positive := line_positive config
  have fits := (s.out.capacity_eq_iff positive).mpr room
  rw [s.out.writeAll_eq (List.length_pos_iff.mp positive), Writer.ending_of_fits fits, fits,
    List.take_length]
  rfl

/-! ## What each stage comes to -/

theorem convert_unreadable (s : Surroundings) (h : ¬ Hex.Paired config.digits) :
    ∃ defect, Hex.decode config.groupId = .error defect ∧
      config.key = .error (.notHex keyVariable defect) ∧
      s.convert config = (.error (.input (.notHex keyVariable defect)), s) := by
  obtain ⟨defect, found, no_key⟩ := config.exists_key_error h
  exact ⟨defect, found, no_key, convert_of_key_error no_key⟩

theorem convert_cut_short (h : Hex.Spells config.digits bytes)
    (full : ¬ s.out.HasRoom config.line.length) :
    s.convert config =
      (.error (.stdout s.out.stopError),
        { s.begun config bytes with
          out := s.out.settled.take (config.line.take (s.out.capacity config.line.length)) }) := by
  have positive := line_positive config
  have short : s.out.capacity config.line.length ≠ config.line.length :=
    fun fits => full ((s.out.capacity_eq_iff positive).mp fits)
  rw [convert_of_spells h, s.out.writeAll_eq (List.length_pos_iff.mp positive),
    Writer.ending_of_short short]

theorem convert_unflushed (h : Hex.Spells config.digits bytes)
    (room : s.out.HasRoom config.line.length) {error : IoError}
    (refused : s.out.flushError = some error) :
    s.convert config =
      (.error (.stdout error), { s.begun config bytes with out := s.flushed config }) := by
  have answer : (s.told config).flush = (.error error, s.flushed config) := by
    unfold Writer.flush
    rw [show (s.told config).flushError = some error from refused]
    rfl
  rw [convert_of_spells h, writeAll_line_of_room room]
  simp only [answer]

theorem flush_told (passed : s.out.flushError = none) :
    (s.told config).flush = (.ok (), s.flushed config) := by
  unfold Writer.flush
  rw [show (s.told config).flushError = none from passed]
  rfl

/-- A file that cannot be written is found out after the line is delivered. -/
theorem convert_unwritten (h : Hex.Spells config.digits bytes)
    (room : s.out.HasRoom config.line.length) (passed : s.out.flushError = none) {error : IoError}
    (refused : (s.files.write config.output bytes).1 = .error error) :
    s.convert config =
      (.error (.file config.output error),
        { s.begun config bytes with out := s.flushed config }) := by
  have written : s.files.write config.output bytes = (.error error, s.files) :=
    Prod.ext refused (FileSystem.write_of_error refused)
  rw [convert_of_spells h, writeAll_line_of_room room]
  simp only [flush_told passed, written]
  rfl

theorem convert_done (h : Hex.Spells config.digits bytes)
    (room : s.out.HasRoom config.line.length) (passed : s.out.flushError = none)
    (written : (s.files.write config.output bytes).1 = .ok ()) :
    s.convert config =
      (.ok ⟨bytes, config.output⟩,
        { out := s.flushed config, files := (s.files.write config.output bytes).2,
          log := s.log ++ [Log.decoded bytes.length config.output,
            Log.wrote bytes.length config.output] }) := by
  have all_written : s.files.write config.output bytes =
      (.ok (), (s.files.write config.output bytes).2) := Prod.ext written rfl
  rw [convert_of_spells h, writeAll_line_of_room room, all_written]
  simp only [flush_told passed, begun, List.append_assoc, List.singleton_append]

inductive Course (s : Surroundings) (config : Config) : Prop
  | unreadable (unpaired : ¬ Hex.Paired config.digits)
  | cutShort {bytes : Bytes} (spells : Hex.Spells config.digits bytes)
      (full : ¬ s.out.HasRoom config.line.length)
  | unflushed {bytes : Bytes} {error : IoError} (spells : Hex.Spells config.digits bytes)
      (room : s.out.HasRoom config.line.length) (refused : s.out.flushError = some error)
  | unwritten {bytes : Bytes} {error : IoError} (spells : Hex.Spells config.digits bytes)
      (room : s.out.HasRoom config.line.length) (passed : s.out.flushError = none)
      (refused : (s.files.write config.output bytes).1 = .error error)
  | done {bytes : Bytes} (spells : Hex.Spells config.digits bytes)
      (room : s.out.HasRoom config.line.length) (passed : s.out.flushError = none)
      (written : (s.files.write config.output bytes).1 = .ok ())

theorem course (s : Surroundings) (config : Config) : Course s config := by
  by_cases paired : Hex.Paired config.digits
  · obtain ⟨bytes, spells⟩ := Hex.exists_spells_iff.mpr paired
    by_cases room : s.out.HasRoom config.line.length
    · cases passed : s.out.flushError with
      | some error => exact .unflushed spells room passed
      | none =>
        cases written : (s.files.write config.output bytes).1 with
        | error error => exact .unwritten spells room passed written
        | ok _ => exact .done spells room passed written
    · exact .cutShort spells room
  · exact .unreadable paired

inductive ResultsAt (p q : Path) : Except Failure Conversion → Except Failure Conversion → Prop
  | input (error : InputError) : ResultsAt p q (.error (.input error)) (.error (.input error))
  | stdout (cause : IoError) : ResultsAt p q (.error (.stdout cause)) (.error (.stdout cause))
  | file (cause : IoError) : ResultsAt p q (.error (.file p cause)) (.error (.file q cause))
  | ok (bytes : Bytes) : ResultsAt p q (.ok ⟨bytes, p⟩) (.ok ⟨bytes, q⟩)

theorem ResultsAt.eq {p : Path} {result result' : Except Failure Conversion}
    (alike : ResultsAt p p result result') : result = result' := by
  cases alike <;> rfl

/-- Conversions of one text come to the same if the file is written alike. The path and the tree
come in at the end, and what is before it does not depend on them. -/
theorem convert_congr {t : Surroundings} (groupId : String) {p q : Path} (out : s.out = t.out)
    (alike : ∀ bytes, s.files.write p bytes = t.files.write q bytes) :
    ResultsAt p q (s.convert ⟨groupId, p⟩).1 (t.convert ⟨groupId, q⟩).1 ∧
      (s.convert ⟨groupId, p⟩).2.out = (t.convert ⟨groupId, q⟩).2.out ∧
      ∀ conversion, (s.convert ⟨groupId, p⟩).1 = .ok conversion →
        (s.convert ⟨groupId, p⟩).2.files = (t.convert ⟨groupId, q⟩).2.files := by
  have spelled {bytes : Bytes} (spells : Hex.Spells (Config.mk groupId p).digits bytes) :
      Hex.Spells (Config.mk groupId q).digits bytes := spells
  have flushed : s.flushed ⟨groupId, p⟩ = t.flushed ⟨groupId, q⟩ := by
    rw [Surroundings.flushed, told, out]
    rfl
  cases s.course ⟨groupId, p⟩ with
  | unreadable unpaired =>
    have unpaired' : ¬ Hex.Paired (Config.mk groupId q).digits := unpaired
    obtain ⟨defect, found, _, ends⟩ := s.convert_unreadable unpaired
    obtain ⟨defect', found', _, ends'⟩ := t.convert_unreadable unpaired'
    cases found.symm.trans found'
    rw [ends, ends']
    exact ⟨.input _, out, fun _ done => nomatch done⟩
  | cutShort spells full =>
    rw [convert_cut_short spells full, convert_cut_short (spelled spells) (out ▸ full), out]
    exact ⟨.stdout _, rfl, fun _ done => nomatch done⟩
  | unflushed spells room refused =>
    rw [convert_unflushed spells room refused,
      convert_unflushed (spelled spells) (out ▸ room) (out ▸ refused)]
    exact ⟨.stdout _, flushed, fun _ done => nomatch done⟩
  | @unwritten bytes error spells room passed refused =>
    have refused' : (t.files.write q bytes).1 = .error error := alike bytes ▸ refused
    rw [convert_unwritten spells room passed refused,
      convert_unwritten (spelled spells) (out ▸ room) (out ▸ passed) refused']
    exact ⟨.file error, flushed, fun _ done => nomatch done⟩
  | @done bytes spells room passed written =>
    have written' : (t.files.write q bytes).1 = .ok () := alike bytes ▸ written
    rw [convert_done spells room passed written,
      convert_done (spelled spells) (out ▸ room) (out ▸ passed) written']
    exact ⟨.ok bytes, flushed, fun _ _ => congrArg Prod.snd (alike bytes)⟩

/-- As much of the line is out as the writer has room for, whatever comes of the rest. -/
theorem accepted_of_spells (h : Hex.Spells config.digits bytes) :
    (s.convert config).2.out.accepted =
      s.out.accepted ++ config.line.take (s.out.capacity config.line.length) := by
  by_cases room : s.out.HasRoom config.line.length
  · rw [(s.out.capacity_eq_iff (line_positive config)).mpr room, List.take_length]
    cases passed : s.out.flushError with
    | some error => rw [convert_unflushed h room passed]; rfl
    | none =>
      cases written : (s.files.write config.output bytes).1 with
      | error error => rw [convert_unwritten h room passed written]; rfl
      | ok _ => rw [convert_done h room passed written]; rfl
  · rw [convert_cut_short h room]; rfl

end Surroundings

end GroupKey
