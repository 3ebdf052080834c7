import GroupKey.Proofs.Conversion.Failure
import GroupKey.Proofs.Conversion.Success
import GroupKey.Proofs.Files.Components

/-!
# Equal configurations

Configurations are equal when they ask for the same text in paths with the same components. That is
not quite enough for them to be converted alike: a path that can only mean a directory is equal to
others that can be written.

* `beq_iff`, `beq_equivalence`: which configurations are equal;
* `convert_of_components`: what becomes of two configurations whose files are written alike;
* `equal_configs_convert_alike`: what equality means for conversions.
-/

namespace GroupKey

inductive Failure.Alike : Failure → Failure → Prop
  | input (error : InputError) : Alike (.input error) (.input error)
  | file {path path' : Path} (equal : (path == path') = true) (cause : IoError) :
      Alike (.file path cause) (.file path' cause)
  | stdout (cause : IoError) : Alike (.stdout cause) (.stdout cause)

namespace Surroundings

inductive ResultsAlike : Except Failure Conversion → Except Failure Conversion → Prop
  | ok {conversion conversion' : Conversion} (equal : (conversion == conversion') = true) :
      ResultsAlike (.ok conversion) (.ok conversion')
  | error {failure failure' : Failure} (alike : failure.Alike failure') :
      ResultsAlike (.error failure) (.error failure')

/-- Two conversions from the same surroundings that have come to the same. -/
structure ConvertedAlike (before : Surroundings)
    (ran ran' : Except Failure Conversion × Surroundings) : Prop where
  result : ResultsAlike ran.1 ran'.1
  files : ran.2.files = ran'.2.files
  untouched : ∀ failure, ran.1 = .error failure → ran.2.files = before.files
  out : ran.2.out = ran'.2.out

end Surroundings

theorem Path.beq_iff {p q : Path} : (p == q) = true ↔ p.components = q.components := by
  have unfolded : (p == q) = (p.components == q.components) := rfl
  rw [unfolded, beq_iff_eq]

namespace Config

theorem beq_iff {a b : Config} :
    (a == b) = true ↔ a.groupId = b.groupId ∧ a.output.components = b.output.components := by
  have unfolded : (a == b) = (a.groupId == b.groupId && a.output == b.output) := rfl
  rw [unfolded, Bool.and_eq_true, beq_iff_eq, Path.beq_iff]

theorem beq_equivalence : Equivalence fun a b : Config => (a == b) = true where
  refl _ := beq_iff.mpr ⟨rfl, rfl⟩
  symm equal := beq_iff.mpr ⟨(beq_iff.mp equal).1.symm, (beq_iff.mp equal).2.symm⟩
  trans equal equal' := beq_iff.mpr ⟨(beq_iff.mp equal).1.trans (beq_iff.mp equal').1,
    (beq_iff.mp equal).2.trans (beq_iff.mp equal').2⟩

end Config

theorem Conversion.beq_iff {x y : Conversion} :
    (x == y) = true ↔ x.bytes = y.bytes ∧ x.path.components = y.path.components := by
  have unfolded : (x == y) = (x.bytes == y.bytes && x.path == y.path) := rfl
  rw [unfolded, Bool.and_eq_true, beq_iff_eq, Path.beq_iff]

namespace Surroundings

variable {s : Surroundings} {a b : Config} {x y : Conversion}

theorem ResultsAt.alike {p q : Path} {result result' : Except Failure Conversion}
    (at_paths : ResultsAt p q result result') (same : p.components = q.components) :
    ResultsAlike result result' := by
  cases at_paths with
  | input error => exact .error (.input error)
  | stdout cause => exact .error (.stdout cause)
  | file cause => exact .error (.file (Path.beq_iff.mpr same) cause)
  | ok bytes => exact .ok (Conversion.beq_iff.mpr ⟨rfl, same⟩)

theorem convert_of_components {groupId : String} {p q : Path} (same : p.components = q.components)
    (alike : ∀ bytes, s.files.write p bytes = s.files.write q bytes) :
    ConvertedAlike s (s.convert ⟨groupId, p⟩) (s.convert ⟨groupId, q⟩) := by
  obtain ⟨results, out, written⟩ := convert_congr groupId rfl alike
  have result := results.alike same
  refine ⟨result, ?_, fun _ failed => files_of_error failed, out⟩
  cases ends : (s.convert ⟨groupId, p⟩).1 with
  | ok conversion => exact written conversion ends
  | error failure =>
    rw [ends] at result
    generalize ends' : (s.convert ⟨groupId, q⟩).1 = result' at result
    cases result with
    | error => rw [files_of_error ends, files_of_error ends']

theorem not_asksDirectory_of_ok (done : (s.convert a).1 = .ok x) : ¬ a.output.AsksDirectory := by
  intro asks
  obtain ⟨place, leads, _⟩ := (succeeded_of_ok done).file
  exact FileSystem.destination_of_asksDirectory asks place leads

theorem fits_of_ok (done : (s.convert a).1 = .ok x) :
    a.output.bytes.length ≤ FileSystem.longestPath := by
  obtain ⟨place, leads, _⟩ := (succeeded_of_ok done).file
  exact (FileSystem.destination_eq_ok_iff_leadsTo.mp leads).2.1

theorem convert_of_asksDirectory (asks : a.output.AsksDirectory) :
    ∃ failure, (s.convert a).1 = .error failure := by
  cases ends : (s.convert a).1 with
  | error failure => exact ⟨failure, rfl⟩
  | ok x => exact absurd asks (not_asksDirectory_of_ok ends)

/-- Equal configurations are converted alike, unless a path can only mean a directory. -/
theorem convert_of_equal (equal : (a == b) = true) (open_a : ¬ a.output.AsksDirectory)
    (open_b : ¬ b.output.AsksDirectory) (fits_a : a.output.bytes.length ≤ FileSystem.longestPath)
    (fits_b : b.output.bytes.length ≤ FileSystem.longestPath) :
    ConvertedAlike s (s.convert a) (s.convert b) := by
  obtain ⟨same_text, same⟩ := Config.beq_iff.mp equal
  obtain ⟨groupId, p⟩ := a
  obtain ⟨_, q⟩ := b
  cases same_text
  exact convert_of_components same fun content =>
    FileSystem.write_of_components same open_a open_b fits_a fits_b content

theorem same_file_of_ok (equal : (a == b) = true) (done_a : (s.convert a).1 = .ok x)
    (done_b : (s.convert b).1 = .ok y) :
    x.bytes = y.bytes ∧ (s.convert a).2.files = (s.convert b).2.files ∧
      ∃ place, s.files.LeadsTo a.output place ∧ s.files.LeadsTo b.output place ∧
        s.files.Updated place x.bytes (s.convert a).2.files := by
  have open_a := not_asksDirectory_of_ok done_a
  have open_b := not_asksDirectory_of_ok done_b
  have alike : ConvertedAlike s (s.convert a) (s.convert b) :=
    convert_of_equal equal open_a open_b (fits_of_ok done_a) (fits_of_ok done_b)
  obtain ⟨place, leads, updated⟩ := (succeeded_of_ok done_a).file
  have same_place : s.files.destination a.output = s.files.destination b.output :=
    FileSystem.destination_of_components (Config.beq_iff.mp equal).2 open_a open_b
      (fits_of_ok done_a) (fits_of_ok done_b)
  have bytes : x.bytes = y.bytes := by
    have result := alike.result
    rw [done_a, done_b] at result
    cases result with
    | ok equal => exact (Conversion.beq_iff.mp equal).1
  exact ⟨bytes, alike.files, place, .of_destination leads, .of_destination (same_place ▸ leads),
    updated⟩

/-- **What equality of configurations means for conversions.** It is an equivalence, and comes to
the same text in paths with the same components. If neither path can only mean a directory, nor is
too long, the conversions come to the same on every tree and with every writer. A path that can only
mean a directory is never converted to, so that equal configurations that are both converted have
put the same bytes in the same place. -/
theorem equal_configs_convert_alike :
    (Equivalence fun a b : Config => (a == b) = true) ∧
    (∀ a b : Config,
      (a == b) = true ↔ a.groupId = b.groupId ∧ a.output.components = b.output.components) ∧
    (∀ (s : Surroundings) (a b : Config), (a == b) = true →
      a.output.bytes.length ≤ FileSystem.longestPath →
      b.output.bytes.length ≤ FileSystem.longestPath →
      ¬ a.output.AsksDirectory → ¬ b.output.AsksDirectory →
      ConvertedAlike s (s.convert a) (s.convert b)) ∧
    (∀ (s : Surroundings) (config : Config), config.output.AsksDirectory →
      ∃ failure, (s.convert config).1 = .error failure) ∧
    (∀ (s : Surroundings) (a b : Config) (x y : Conversion), (a == b) = true →
      (s.convert a).1 = .ok x → (s.convert b).1 = .ok y →
      x.bytes = y.bytes ∧ (s.convert a).2.files = (s.convert b).2.files ∧
        ∃ place, s.files.LeadsTo a.output place ∧ s.files.LeadsTo b.output place ∧
          s.files.Updated place x.bytes (s.convert a).2.files) :=
  ⟨Config.beq_equivalence, fun _ _ => Config.beq_iff,
    fun _ _ _ equal fits_a fits_b open_a open_b =>
      convert_of_equal equal open_a open_b fits_a fits_b,
    fun _ _ asks => convert_of_asksDirectory asks,
    fun _ _ _ _ _ equal done_a done_b => same_file_of_ok equal done_a done_b⟩

/-- A directory, and a link to it that has a dot at its end. -/
def boxed : Surroundings where
  files := ((FileSystem.mk ∅ []).put [Utf8.encode "keys"] .directory).put
    [Utf8.encode "box"] (.link (.ofString "keys/."))

/-- Two spellings of the same path through the link, and a third that can only mean a directory. -/
theorem equal_configs_convert_alike_of_dots :
    let a : Config := ⟨"dEaD", .ofString "box//./key.der"⟩
    let b : Config := ⟨"dEaD", .ofString "box/key.der"⟩
    let c : Config := ⟨"dEaD", .ofString "box/key.der/"⟩
    (a == b) = true ∧ (a == c) = true ∧
      (boxed.convert a).1 = .ok ⟨[0xDE, 0xAD], a.output⟩ ∧
      (boxed.convert b).1 = .ok ⟨[0xDE, 0xAD], b.output⟩ ∧
      ConvertedAlike boxed (boxed.convert a) (boxed.convert b) ∧
      (boxed.convert a).2.files = (boxed.convert b).2.files ∧
      ∃ failure, (boxed.convert c).1 = .error failure := by
  intro a b c
  have equal : (a == b) = true := by decide
  have done (config : Config) (spells : Hex.Spells config.digits [0xDE, 0xAD])
      (leads : boxed.files.destination config.output =
        .ok [Utf8.encode "key.der", Utf8.encode "keys"]) :
      (boxed.convert config).1 = .ok ⟨[0xDE, 0xAD], config.output⟩ := by
    have room : boxed.out.HasRoom config.line.length := ⟨by decide, by simp [boxed]⟩
    have written : (boxed.files.write config.output [0xDE, 0xAD]).1 = .ok () := by
      rw [FileSystem.write_of_destination leads]
      exact FileSystem.fill_of_free (.inl (by decide))
    rw [convert_done spells room rfl written]
  have spells : Hex.Spells a.digits [0xDE, 0xAD] := Hex.decode_eq_ok_iff.mp (by decide)
  have done_a := done a spells (by decide)
  have done_b := done b spells (by decide)
  have alike := equal_configs_convert_alike.2.2.1 boxed a b equal (by decide) (by decide)
    (by decide) (by decide)
  have same := equal_configs_convert_alike.2.2.2.2 boxed a b _ _ equal done_a done_b
  have refused := equal_configs_convert_alike.2.2.2.1 boxed c (by decide)
  exact ⟨equal, by decide, done_a, done_b, alike, same.2.1, refused⟩

end Surroundings

end GroupKey
