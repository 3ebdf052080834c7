import GroupKey.Proofs.Conversion.Stages
import GroupKey.Proofs.Files.Change
import GroupKey.Proofs.Files.Route

/-!
# Writing the key file

* `Stored`: what a write that succeeded has done, to a device or to a file;
* `Openable`: which paths can be written, if no device is behind them;
* `writeKey_spec`: a write does one or changes nothing, and it succeeds for exactly the other.
-/

namespace GroupKey

namespace FileSystem

/-- What a write that succeeded has done. The path leads to a device, which keeps nothing of the
content and may only take it if there is none, or to the one place that has the content now, where
there was a regular file before or nothing. -/
inductive Stored (fs : FileSystem) (p : Path) (content : Bytes) (after : FileSystem) : Prop
  | device {place : Location} {kind : Device} (leads : fs.LeadsTo p place)
      (found : fs.node? place = some (.device kind)) (taken : kind = .full → content = [])
      (untouched : after = fs)
  | file {place : Location} (leads : fs.LeadsTo p place)
      (only : ∀ other, fs.LeadsTo p other → other = place) (free : fs.IsFree place)
      (around : fs.WellFormed → fs.node? place.tail = some .directory)
      (here : after.node? place = some (.file content))
      (elsewhere : ∀ other, other ≠ place → after.node? other = fs.node? other)
      (cwd : after.cwd = fs.cwd)

/-- A path that can be written if no device is behind it: it can be handed to the operating system,
it has no slash at its end, and it leads to a regular file or to a free name in a directory. -/
structure Openable (fs : FileSystem) (p : Path) : Prop where
  no_zero : 0 ∉ p.bytes
  length : p.bytes.length ≤ longestPath
  parts : ∀ part ∈ p.parts, part.length ≤ longestName
  no_slash : p.bytes.getLast? ≠ some Path.slash
  leads : ∃ place, fs.LeadsTo p place ∧ fs.IsFree place ∧
    (fs.WellFormed → fs.node? place.tail = some .directory)

variable {fs : FileSystem} {p : Path} {content : Bytes} {place : Location}

theorem empty_of_fill_full (full : fs.node? place = some (.device .full))
    (h : (fs.fill place content).1 = .ok ()) : content = [] := by
  rw [fill, full] at h
  dsimp only at h
  split at h
  · assumption
  · cases h

theorem stored_of_ok (h : (fs.write p content).1 = .ok ()) :
    fs.Stored p content (fs.write p content).2 := by
  obtain ⟨place, leads, updated⟩ := write_of_ok h
  have route := LeadsTo.of_destination leads
  rcases (destination_writable leads).device_or_free with ⟨kind, found⟩ | free
  · refine .device route found (fun full => ?_) (updated.device kind found)
    rw [write_of_destination leads] at h
    exact empty_of_fill_full (full ▸ found) h
  · exact .file route (fun _ other => leadsTo_unique other route) free
      (fun wf => destination_around wf leads) (updated.file free.no_device) updated.elsewhere
      updated.cwd

/-- Where no device is behind a path, it can be written whatever the content. -/
theorem write_eq_ok_iff_openable
    (no_device : ∀ place kind, fs.LeadsTo p place → fs.node? place ≠ some (.device kind)) :
    (fs.write p content).1 = .ok () ↔ fs.Openable p := by
  constructor
  · intro h
    obtain ⟨place, leads, _⟩ := write_of_ok h
    obtain ⟨no_zero, short, no_slash, route⟩ := destination_eq_ok_iff_leadsTo.mp leads
    have free : fs.IsFree place := by
      rcases (destination_writable leads).device_or_free with ⟨kind, found⟩ | free
      · exact absurd found (no_device place kind route)
      · exact free
    exact ⟨no_zero, short, fun _ listed => route.parts_fit listed, no_slash, place, route, free,
      fun wf => destination_around wf leads⟩
  · rintro ⟨no_zero, short, _, no_slash, place, route, free, _⟩
    have leads := destination_eq_ok_iff_leadsTo.mpr ⟨no_zero, short, no_slash, route⟩
    rw [write_of_destination leads]
    exact fill_of_free free

end FileSystem

namespace Surroundings

/-- **Writing the key file, from end to end.** A write that succeeds leaves the bytes at the one
place that the path leads to, or in a device, and changes nothing else. One that fails tells the
path as it was given and changes nothing at all. Where no device is behind the path, the write
succeeds exactly if the path can be written. -/
theorem writeKey_spec (s : Surroundings) (p : Path) (content : Bytes) :
    ((s.writeKey p content).1 = .ok () →
      s.files.Stored p content (s.writeKey p content).2.files) ∧
    (∀ failure, (s.writeKey p content).1 = .error failure →
      (∃ cause, failure = .file p cause) ∧ (s.writeKey p content).2 = s) ∧
    ((∀ place kind, s.files.LeadsTo p place → s.files.node? place ≠ some (.device kind)) →
      ((s.writeKey p content).1 = .ok () ↔ s.files.Openable p)) := by
  refine ⟨fun done => ?_, fun failure failed => ?_, fun no_device => ?_⟩
  · exact FileSystem.stored_of_ok (writeKey_eq_ok_iff.mp done)
  · obtain ⟨cause, refused, told⟩ := writeKey_eq_error_iff.mp failed
    refine ⟨⟨cause, told⟩, ?_⟩
    rw [writeKey, run_writeKey, FileSystem.write_of_error refused]
  · rw [writeKey_eq_ok_iff]
    exact FileSystem.write_eq_ok_iff_openable no_device

/-- A directory and two links: one into the directory, and there one back out of it to a file that
is not there. -/
def detoured : Surroundings where
  files := (((FileSystem.mk ∅ []).put [Utf8.encode "keys"] .directory).put
    [Utf8.encode "key.der"] (.link (.ofString "keys//./current"))).put
    [Utf8.encode "current", Utf8.encode "keys"] (.link (.ofString "../real.der"))

/-- The file is made at the end of both links. -/
theorem writeKey_spec_detoured :
    (∀ place kind, detoured.files.LeadsTo (.ofString "key.der") place →
      detoured.files.node? place ≠ some (.device kind)) ∧
    (detoured.writeKey (.ofString "key.der") [7]).1 = .ok () ∧
    detoured.files.Openable (.ofString "key.der") ∧
    detoured.files.Stored (.ofString "key.der") [7]
      (detoured.writeKey (.ofString "key.der") [7]).2.files := by
  have leads : detoured.files.destination (.ofString "key.der") =
      .ok [Utf8.encode "real.der"] := by decide
  have no_device : ∀ place kind, detoured.files.LeadsTo (.ofString "key.der") place →
      detoured.files.node? place ≠ some (.device kind) := by
    intro place kind route
    rw [FileSystem.leadsTo_unique route (.of_destination leads)]
    have absent : detoured.files.node? [Utf8.encode "real.der"] = none := by decide
    simp [absent]
  have spec := writeKey_spec detoured (.ofString "key.der") [7]
  have done : (detoured.writeKey (.ofString "key.der") [7]).1 = .ok () := by
    rw [writeKey_eq_ok_iff, FileSystem.write_of_destination leads]
    exact FileSystem.fill_of_free (.inl (by decide))
  exact ⟨no_device, done, (spec.2.2 no_device).mp done, spec.1 done⟩

end Surroundings

end GroupKey
