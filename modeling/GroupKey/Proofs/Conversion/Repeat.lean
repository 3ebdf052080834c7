import GroupKey.Proofs.Conversion.Failure
import GroupKey.Proofs.Conversion.KeyFile
import GroupKey.Proofs.Conversion.Success
import GroupKey.Proofs.Files.Overwrite

/-!
# Keys written one after another

* `writeKey_again`, `writeBoth_of_same_place`: of two writes to one place only the second can be
  told;
* `writeBoth_comm`: keys can be written to different places in any order;
* `convert_again`: a conversion that is repeated comes to what it would have come to alone;
* `writes_in_sequence`: all of this together.
-/

namespace GroupKey.Surroundings

def writeBoth (s : Surroundings) (p : Path) (b : Bytes) (q : Path) (c : Bytes) :
    Except Failure Unit × Surroundings :=
  (s.writeKey p b).2.writeKey q c

variable {s : Surroundings} {config : Config} {p q : Path} {x y : Location} {b c : Bytes}
  {conversion : Conversion}

/-! ## Two writes -/

theorem writeBoth_eq (s : Surroundings) (p : Path) (b : Bytes) (q : Path) (c : Bytes) :
    s.writeBoth p b q c =
      let both := (s.files.write p b).2.write q c
      (both.1.mapError (.file q), { s with files := both.2 }) := rfl

theorem writeKey_again (s : Surroundings) (p : Path) (b c : Bytes) :
    s.writeBoth p b p c = s.writeKey p c := by
  rw [writeBoth_eq, writeKey, run_writeKey, s.files.write_again]

/-- Of two writes to the same place only the second can be told. -/
theorem writeBoth_of_same_place (to_p : s.files.destination p = .ok x)
    (to_q : s.files.destination q = .ok x) : s.writeBoth p b q c = s.writeKey q c := by
  rw [writeBoth_eq, writeKey, run_writeKey, FileSystem.write_absorbs to_p to_q]

theorem writeBoth_succeeds (to_p : s.files.destination p = .ok x)
    (to_q : s.files.destination q = .ok y) (written : (s.writeKey q c).1 = .ok ()) :
    (s.writeBoth p b q c).1 = .ok () := by
  by_cases same : x = y
  · subst same
    rw [writeBoth_of_same_place to_p to_q, written]
  · rw [writeBoth_eq]
    dsimp only
    rw [FileSystem.write_answer_of_ne to_p to_q same]
    exact written

theorem writeBoth_comm (to_p : s.files.destination p = .ok x)
    (to_q : s.files.destination q = .ok y) (away : x ≠ y) :
    (s.writeBoth p b q c).2 = (s.writeBoth q c p b).2 := by
  rw [writeBoth_eq, writeBoth_eq]
  dsimp only
  rw [FileSystem.write_comm to_p to_q away]

theorem node?_of_written (to_q : s.files.destination q = .ok y)
    (written : (s.writeKey q c).1 = .ok ())
    (no_device : ∀ kind, s.files.node? y ≠ some (.device kind)) :
    (s.writeKey q c).2.files.node? y = some (.file c) := by
  obtain ⟨place, leads, updated⟩ := FileSystem.write_of_ok (writeKey_eq_ok_iff.mp written)
  cases to_q.symm.trans leads
  exact updated.file no_device

structure WrittenInSequence (s : Surroundings) (p : Path) (b : Bytes) (q : Path) (c : Bytes) :
    Prop where
  succeeds : (s.writeBoth p b q c).1 = .ok ()
  succeeds' : (s.writeBoth q c p b).1 = .ok ()
  leads : ∃ x y, s.files.LeadsTo p x ∧ s.files.LeadsTo q y ∧
    (x ≠ y → (s.writeBoth p b q c).2 = (s.writeBoth q c p b).2) ∧
    (x = y → (∀ kind, s.files.node? x ≠ some (.device kind)) →
      (s.writeBoth p b q c).2.files.node? x = some (.file c) ∧
      (s.writeBoth q c p b).2.files.node? x = some (.file b))

theorem writtenInSequence (first : (s.writeKey p b).1 = .ok ())
    (second : (s.writeKey q c).1 = .ok ()) : WrittenInSequence s p b q c := by
  obtain ⟨x, to_p, _⟩ := FileSystem.write_of_ok (writeKey_eq_ok_iff.mp first)
  obtain ⟨y, to_q, _⟩ := FileSystem.write_of_ok (writeKey_eq_ok_iff.mp second)
  refine ⟨writeBoth_succeeds to_p to_q second, writeBoth_succeeds to_q to_p first, x, y,
    .of_destination to_p, .of_destination to_q, writeBoth_comm to_p to_q, ?_⟩
  rintro rfl no_device
  rw [writeBoth_of_same_place to_p to_q, writeBoth_of_same_place to_q to_p]
  exact ⟨node?_of_written to_q second no_device, node?_of_written to_p first no_device⟩

/-! ## Repeated conversions -/

theorem write_after_convert (s : Surroundings) (config : Config) (bytes : Bytes) :
    (s.convert config).2.files.write config.output bytes = s.files.write config.output bytes := by
  cases ends : (s.convert config).1 with
  | error failure => rw [files_of_error ends]
  | ok conversion =>
    obtain ⟨_, _, _, _, _, left⟩ := convert_eq_ok ends
    rw [left]
    exact s.files.write_again config.output conversion.bytes bytes

theorem files_of_repeated {t : Surroundings} (done : (s.convert config).1 = .ok conversion)
    (left : t.files = (s.convert config).2.files) : (t.convert config).2.files = t.files := by
  cases ends : (t.convert config).1 with
  | error failure => exact files_of_error ends
  | ok conversion' =>
    obtain ⟨spells, _, _, _, _, after⟩ := convert_eq_ok done
    obtain ⟨spells', _, _, _, _, after'⟩ := convert_eq_ok ends
    have same : conversion.bytes = conversion'.bytes :=
      Except.ok.inj ((Config.key_eq_ok_iff.mpr spells).symm.trans (Config.key_eq_ok_iff.mpr spells'))
    rw [after', left, after, ← same]
    dsimp only
    rw [s.files.write_again]

/-- What comes of a conversion that is made twice, the second time with a writer of its own. -/
structure Repeated (s : Surroundings) (config : Config) (out : Writer)
    (again : Except Failure Conversion × Surroundings) : Prop where
  result : again.1 = (({ s with out } : Surroundings).convert config).1
  absorbs : ∀ conversion, again.1 = .ok conversion →
    again.2.files = (({ s with out } : Surroundings).convert config).2.files
  idempotent : (∃ conversion, (s.convert config).1 = .ok conversion) ∨ out = s.out →
    again.2.files = (s.convert config).2.files

/-- **A conversion made again comes to what it comes to alone**, and leaves the tree that the first
one left if that succeeded, or if the writer behaves the same way again. -/
theorem convert_again (s : Surroundings) (config : Config) (out : Writer) :
    Repeated s config out (({ (s.convert config).2 with out } : Surroundings).convert config) := by
  obtain ⟨groupId, p⟩ := config
  have alike := convert_congr (s := { (s.convert ⟨groupId, p⟩).2 with out })
    (t := { s with out }) groupId rfl (s.write_after_convert ⟨groupId, p⟩)
  have result := alike.1.eq
  refine ⟨result, alike.2.2, ?_⟩
  rintro (⟨conversion, done⟩ | rfl)
  · exact files_of_repeated done rfl
  · cases ends : (s.convert ⟨groupId, p⟩).1 with
    | ok conversion => exact files_of_repeated ends rfl
    | error failure => exact files_of_error (result.trans ends)

/-! ## All of this together -/

/-- **Keys written one after another.** Of two writes to one path only the second can be told,
whatever became of the first, and a conversion that is made again leaves what it left. Two writes
that succeed on their own succeed in either order. If they lead to different places it makes no
difference which comes first, and if they lead to the same file the last one's bytes remain. -/
theorem writes_in_sequence (s : Surroundings) :
    (∀ p b c, s.writeBoth p b p c = s.writeKey p c) ∧
    (∀ config out, Repeated s config out
      (({ (s.convert config).2 with out } : Surroundings).convert config)) ∧
    (∀ p b q c, (s.writeKey p b).1 = .ok () → (s.writeKey q c).1 = .ok () →
      WrittenInSequence s p b q c) :=
  ⟨s.writeKey_again, s.convert_again, fun _ _ _ _ => writtenInSequence⟩

/-- A link that leads to a file that is not there, the file itself, and one in a directory beside
it. -/
theorem writes_in_sequence_detoured :
    let link : Path := .ofString "key.der"
    let file : Path := .ofString "real.der"
    let other : Path := .ofString "keys//other.der"
    (detoured.writeKey link [7]).1 = .ok () ∧ (detoured.writeKey file [8]).1 = .ok () ∧
      (detoured.writeKey other [9]).1 = .ok () ∧
      (detoured.writeBoth link [7] file [8]).2.files.node? [Utf8.encode "real.der"] =
        some (.file [8]) ∧
      (detoured.writeBoth link [7] other [9]).2 = (detoured.writeBoth other [9] link [7]).2 := by
  intro link file other
  have to_file : detoured.files.destination link = .ok [Utf8.encode "real.der"] ∧
      detoured.files.destination file = .ok [Utf8.encode "real.der"] := by decide
  have to_other : detoured.files.destination other =
      .ok [Utf8.encode "other.der", Utf8.encode "keys"] := by decide
  have absent : detoured.files.node? [Utf8.encode "real.der"] = none ∧
      detoured.files.node? [Utf8.encode "other.der", Utf8.encode "keys"] = none := by decide
  have written {p : Path} {place : Location} (b : Bytes)
      (leads : detoured.files.destination p = .ok place)
      (absent : detoured.files.node? place = none) : (detoured.writeKey p b).1 = .ok () := by
    rw [writeKey_eq_ok_iff, FileSystem.write_of_destination leads]
    exact FileSystem.fill_of_free (.inl absent)
  have by_link := written [7] to_file.1 absent.1
  have by_file := written [8] to_file.2 absent.1
  have beside := written [9] to_other absent.2
  have sequence := (writes_in_sequence detoured).2.2
  refine ⟨by_link, by_file, beside, ?_, ?_⟩
  · obtain ⟨_, _, x, y, to_x, to_y, _, same⟩ := sequence _ _ _ _ by_link by_file
    have at_x := FileSystem.leadsTo_unique to_x (.of_destination to_file.1)
    have at_y := FileSystem.leadsTo_unique to_y (.of_destination to_file.2)
    subst at_x
    exact (same at_y.symm (by simp [absent.1])).1
  · obtain ⟨_, _, x, y, to_x, to_y, apart, _⟩ := sequence _ _ _ _ by_link beside
    have at_x := FileSystem.leadsTo_unique to_x (.of_destination to_file.1)
    have at_y := FileSystem.leadsTo_unique to_y (.of_destination to_other)
    exact apart (by rw [at_x, at_y]; decide)

end GroupKey.Surroundings
