import GroupKey.Proofs.Command.Streams
import GroupKey.Proofs.Conversion.Failure
import GroupKey.Proofs.Text.Lossy

/-!
# The path that is shown and the path that is kept

A path need not be text. Log and error messages show it as text all the same; what a conversion
gives back is the path itself.

* `PathKept`: what a conversion shows of its path, and what it gives back;
* `splitOn_shown`: a path is shown part by part;
* `path_shown_and_kept`: how what is shown goes with what is kept.
-/

namespace GroupKey

namespace Path

variable {p : Path}

theorem shown_of_ascii {x y : Bytes} {b : UInt8} (ascii : b.toNat < 0x80)
    (split : p.bytes = x ++ b :: y) :
    p.shown = (Path.mk x).shown ++ String.singleton (Char.ofNat b.toNat) ++ (Path.mk y).shown := by
  rw [shown, split]
  exact Utf8.lossy_append_ascii x ascii y

theorem shown_of_text {x y : Bytes} (text : Utf8.WellFormed x) (split : p.bytes = x ++ y) :
    ∃ front, Utf8.encode front = x ∧ p.shown = front ++ (Path.mk y).shown := by
  obtain ⟨front, rfl⟩ := Utf8.wellFormed_iff.mp text
  refine ⟨front, rfl, ?_⟩
  rw [shown, split]
  exact Utf8.lossy_append_text front y

/-- **A path is shown part by part.** No part takes anything from a slash or from another part. -/
theorem splitOn_shown (p : Path) :
    p.shown.toList.splitOn '/' = p.parts.map fun part => (Path.mk part).shown.toList :=
  Utf8.splitOn_lossy (b := slash) (by decide) p.bytes

end Path

namespace Surroundings

/-- What a conversion shows of its path, and what it gives back of it. The records that it adds to
the log begin as those of every conversion do and show the path behind that. There are two of them
if it succeeds. -/
structure PathKept (before : Surroundings) (p : Path)
    (ran : Except Failure Conversion × Surroundings) : Prop where
  records : ∃ noted count, ran.2.log = before.log ++ noted ∧
    noted.map Log.Record.text <+:
      ["decoded " ++ decimal count ++ " bytes, writing to " ++ p.shown,
        "wrote " ++ decimal count ++ " bytes to " ++ p.shown]
  whole : ∀ conversion, ran.1 = .ok conversion → ∃ count,
    ran.2.log.map Log.Record.text = before.log.map Log.Record.text ++
      ["decoded " ++ decimal count ++ " bytes, writing to " ++ p.shown,
        "wrote " ++ decimal count ++ " bytes to " ++ p.shown]
  given : ∀ conversion, ran.1 = .ok conversion → conversion.path = p
  named : ∀ path cause, ran.1 = .error (.file path cause) → path = p

theorem pathKept (s : Surroundings) (groupId : String) (p : Path) :
    PathKept s p (s.convert ⟨groupId, p⟩) := by
  obtain ⟨noted, count, log, cut⟩ := s.records_of_conversion ⟨groupId, p⟩
  refine ⟨⟨noted, count, log, cut.map Log.Record.text⟩, ?_, ?_, ?_⟩
  · intro conversion done
    have told := congrArg (List.map Log.Record.text) (succeeded_of_ok done).log
    rw [List.map_append] at told
    exact ⟨_, told⟩
  · intro conversion done
    exact (succeeded_of_ok done).path
  · intro path cause failed
    have stopped : StoppedAtFile s ⟨groupId, p⟩ path cause (s.convert ⟨groupId, p⟩).2 :=
      stopped_of_error failed
    exact stopped.named

end Surroundings

/-- **How the path that is shown goes with the path that is kept.** It is the same text in the log
and in the error, always text, and the path itself exactly if that is text. What stands on the two
sides of an ASCII byte is shown by itself, and so is what follows a text; in particular there are as
many parts between slashes as the path has, each shown as if it were alone. What a conversion or an
error gives back is the very path. -/
theorem path_shown_and_kept (p : Path) :
    (∀ (s : Surroundings) (groupId : String), s.PathKept p (s.convert ⟨groupId, p⟩)) ∧
    (∀ (s : Surroundings) (bytes : Bytes) (failure : Failure),
      (s.writeKey p bytes).1 = .error failure → ∃ cause, failure = .file p cause) ∧
    (∀ cause, (Failure.file p cause).message = "failed to write " ++ p.shown) ∧
    Utf8.WellFormed (Utf8.encode p.shown) ∧
    (Utf8.encode p.shown = p.bytes ↔ Utf8.WellFormed p.bytes) ∧
    (∀ x y b, b.toNat < 0x80 → p.bytes = x ++ b :: y →
      p.shown = (Path.mk x).shown ++ String.singleton (Char.ofNat b.toNat) ++ (Path.mk y).shown) ∧
    (∀ x y, Utf8.WellFormed x → p.bytes = x ++ y →
      ∃ front, Utf8.encode front = x ∧ p.shown = front ++ (Path.mk y).shown) ∧
    p.shown.toList.splitOn '/' = p.parts.map fun part => (Path.mk part).shown.toList := by
  refine ⟨fun s groupId => s.pathKept groupId p, fun s bytes failure failed => ?_, fun _ => rfl,
    Utf8.wellFormed_iff.mpr ⟨p.shown, rfl⟩, Utf8.encode_lossy_iff,
    fun _ _ _ ascii split => Path.shown_of_ascii ascii split,
    fun _ _ text split => Path.shown_of_text text split, p.splitOn_shown⟩
  obtain ⟨cause, _, told⟩ := Surroundings.writeKey_eq_error_iff.mp failed
  exact ⟨cause, told⟩

/-- The start of a character of three bytes before a slash. -/
theorem path_shown_and_kept_of_cut :
    let p : Path := ⟨[0x61, 0xE2, 0x82, 0x2F, 0x62]⟩
    let failure : Failure := .file p (.system .noEntry)
    let s : Surroundings := { files := ⟨∅, []⟩ }
    (s.writeKey p [7]).1 = .error failure ∧ (∃ cause, failure = .file p cause) ∧
      failure.message = "failed to write a\ufffd/b" ∧
      p.shown = (Path.mk [0x61, 0xE2, 0x82]).shown ++ "/" ++ (Path.mk [0x62]).shown ∧
      ∃ front, Utf8.encode front = [0x61] ∧
        p.shown = front ++ (Path.mk [0xE2, 0x82, 0x2F, 0x62]).shown := by
  intro p failure s
  obtain ⟨_, named, told, _, _, sides, behind_text, _⟩ := path_shown_and_kept p
  have failed : (s.writeKey p [7]).1 = .error failure := by decide
  have text : Utf8.WellFormed [0x61] := Utf8.wellFormed_iff.mpr ⟨"a", rfl⟩
  have message : failure.message = "failed to write a\ufffd/b" := (told _).trans (by decide)
  exact ⟨failed, named s [7] failure failed, message, sides _ _ 0x2F (by decide) rfl,
    behind_text _ _ text rfl⟩

end GroupKey
