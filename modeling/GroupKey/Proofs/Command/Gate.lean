import GroupKey.Proofs.Command.Arguments
import GroupKey.Proofs.Command.Lookups
import GroupKey.Proofs.Command.Streams

/-!
# Which command lines reach the conversion

* `run_of_tell`, `run_of_refuse`: runs that do not convert;
* `Declines`: what such a run does, whatever the machine holds;
* `arguments_gate_conversion`: the key is looked at, and the tree can change, for the two command
  lines that ask for a conversion and for no other.
-/

namespace GroupKey.Command

theorem Misuse.text_begins (misuse : Misuse) : ∃ rest, misuse.text = "error: " ++ rest := by
  refine ⟨misuse.fault ++ "\n\n" ++ misuse.tip ++ usage misuse.flag? ++ "\n\n" ++
    "For more information, try '--help'.\n", ?_⟩
  simp only [Misuse.text, String.append_assoc]

namespace Machine

variable (machine : Machine) {arguments : List Bytes}

theorem run_of_tell {flag : Flag} (h : Request.ofArguments arguments = .tell flag) :
    machine.run arguments =
      (.success, { machine with out := (machine.out.writeAll (Utf8.encode flag.text)).2.flush.2 }) := by
  unfold run Host.run
  rw [h]
  rfl

theorem run_of_refuse {misuse : Misuse} (h : Request.ofArguments arguments = .refuse misuse) :
    machine.run arguments = (.misuse, { machine with err := machine.err ++ misuse.text }) := by
  unfold run Host.run
  rw [h]
  rfl

theorem run_of_same_request {arguments' : List Bytes}
    (h : Request.ofArguments arguments = Request.ofArguments arguments') :
    machine.run arguments = machine.run arguments' := by
  unfold run Host.run
  rw [h]

theorem run_of_same_decisive {arguments' : List Bytes}
    (h : decisive arguments' = decisive arguments) :
    machine.run arguments' = machine.run arguments := by
  apply run_of_same_request
  rw [← Request.ofArguments_decisive arguments', h, Request.ofArguments_decisive]

theorem status_eq_zero_iff (other : Request.ofArguments arguments ≠ .convert) :
    (machine.run arguments).1.status = 0 ↔ ∃ first ∈ arguments.head?, AsksForText first := by
  have told : (machine.run arguments).1.status = 0 ↔
      ∃ flag, Request.ofArguments arguments = .tell flag := by
    cases asked : Request.ofArguments arguments with
    | convert => exact absurd asked other
    | tell flag => simp [machine.run_of_tell asked, Outcome.status]
    | refuse misuse => simp [machine.run_of_refuse asked, Outcome.status]
  rw [told]
  constructor
  · rintro ⟨flag, tells⟩
    obtain ⟨first, head, asked⟩ := Request.ofArguments_eq_tell_iff.mp tells
    exact ⟨first, head, asksForText_iff.mpr ⟨flag, asked⟩⟩
  · rintro ⟨first, head, asks⟩
    obtain ⟨flag, asked⟩ := asksForText_iff.mp asks
    exact ⟨flag, Request.ofArguments_eq_tell_iff.mpr ⟨first, head, asked⟩⟩

/-- A run that does not convert. It leaves the tree alone, and what it tells depends on its arguments
alone, of which only those that decide are looked at: either it tells the text that the first asks
for, or it says what is wrong on the error stream and prints nothing. -/
structure Declines (machine : Machine) (arguments : List Bytes) : Prop where
  files : (machine.run arguments).2.files = machine.files
  blind : ∀ machine' : Machine, machine'.out = machine.out → machine'.err = machine.err →
    (machine'.run arguments).1.status = (machine.run arguments).1.status ∧
      (machine'.run arguments).2.out = (machine.run arguments).2.out ∧
      (machine'.run arguments).2.err = (machine.run arguments).2.err
  told : (machine.run arguments).1.status = 0 ↔ ∃ first ∈ arguments.head?, AsksForText first
  quiet : (machine.run arguments).1.status = 0 → (machine.run arguments).2.err = machine.err
  refused : (machine.run arguments).1.status ≠ 0 →
    (machine.run arguments).1.status = 2 ∧ (machine.run arguments).2.out = machine.out ∧
      ∃ rest, (machine.run arguments).2.err = machine.err ++ ("error: " ++ rest)
  later : ∀ arguments', decisive arguments' = decisive arguments →
    machine.run arguments' = machine.run arguments

theorem declines_of_other (other : Request.ofArguments arguments ≠ .convert) :
    Declines machine arguments where
  files := machine.run_of_other other
  blind machine' out err := by
    obtain ⟨outcome, err, out⟩ := run_of_same_streams other out err
    exact ⟨congrArg Outcome.status outcome, out, err⟩
  told := machine.status_eq_zero_iff other
  quiet zero := by
    cases asked : Request.ofArguments arguments with
    | convert => exact absurd asked other
    | tell flag => rw [machine.run_of_tell asked]
    | refuse misuse =>
      rw [machine.run_of_refuse asked] at zero
      cases zero
  refused failed := by
    cases asked : Request.ofArguments arguments with
    | convert => exact absurd asked other
    | tell flag =>
      rw [machine.run_of_tell asked] at failed
      exact absurd rfl failed
    | refuse misuse =>
      obtain ⟨rest, begins⟩ := misuse.text_begins
      rw [machine.run_of_refuse asked, begins]
      exact ⟨rfl, rfl, rest, rfl⟩
  later _ := machine.run_of_same_decisive

theorem mem_asked_iff : "GROUP_ID" ∈ machine.asked arguments ↔ AsksToConvert arguments := by
  rw [machine.asked_eq, ← Request.ofArguments_eq_convert_iff]
  cases Request.ofArguments arguments with
  | convert => exact iff_of_true (by decide) rfl
  | tell flag => exact iff_of_false List.not_mem_nil Request.noConfusion
  | refuse misuse => exact iff_of_false List.not_mem_nil Request.noConfusion

theorem files_of_spells {raw bytes : Bytes} (h : Request.ofArguments arguments = .convert)
    (value : machine.environment.value? "GROUP_ID" = some raw) (spells : Hex.Spells raw bytes)
    (ordinary : machine.out = {})
    (written : (machine.files.write (.ofString "key.der") bytes).1 = .ok ()) :
    (machine.run arguments).2.files = (machine.files.write (.ofString "key.der") bytes).2 := by
  obtain ⟨config, found, digits, output⟩ :=
    Config.ofValue?_of_wellFormed (Hex.paired_of_spells spells).wellFormed
  rw [← value] at found
  rw [← digits] at spells
  rw [← output] at written ⊢
  have room : machine.surroundings.out.HasRoom config.line.length := by
    have plain : machine.surroundings.out = {} := ordinary
    rw [plain]
    exact ⟨by simp, by simp⟩
  have passed : machine.surroundings.out.flushError = none := congrArg Writer.flushError ordinary
  have converts := Surroundings.convert_done (s := machine.surroundings) spells room passed written
  rw [machine.files_of_convert h, Surroundings.convertFrom_of_ok found, converts]
  rfl

/-- A machine on which an empty key is waiting for its file. -/
def waiting : Machine := { environment := [("GROUP_ID", [])], files := ⟨∅, []⟩ }

theorem files_of_waiting : (waiting.run []).2.files ≠ waiting.files := by
  intro same
  have leads : waiting.files.destination (.ofString "key.der") = .ok [Utf8.encode "key.der"] := by
    decide
  have absent : waiting.files.node? [Utf8.encode "key.der"] = none := by decide
  have done : (waiting.files.write (.ofString "key.der") []).1 = .ok () := by
    rw [FileSystem.write_of_destination leads]
    exact FileSystem.fill_of_free (.inl absent)
  obtain ⟨place, found, updated⟩ := FileSystem.write_of_ok done
  cases leads.symm.trans found
  have filled := updated.file (by simp [absent])
  have asks : Request.ofArguments [] = .convert := rfl
  rw [← waiting.files_of_spells asks rfl Hex.spells_nil rfl done, same, absent] at filled
  cases filled

/-- **The command line gates the conversion.** The key is looked at, and the tree can change, exactly
when the arguments are none or two dashes alone, and those two do the same. Any other arguments
decline, on every machine. -/
theorem arguments_gate_conversion (arguments : List Bytes) :
    (∀ machine : Machine, "GROUP_ID" ∈ machine.asked arguments ↔ AsksToConvert arguments) ∧
    ((∃ machine : Machine, (machine.run arguments).2.files ≠ machine.files) ↔
      AsksToConvert arguments) ∧
    (AsksToConvert arguments → ∀ machine : Machine, machine.run arguments = machine.run []) ∧
    (¬ AsksToConvert arguments → ∀ machine : Machine, Declines machine arguments) := by
  have alike : AsksToConvert arguments →
      ∀ machine : Machine, machine.run arguments = machine.run [] := by
    intro asks machine
    exact machine.run_of_same_request (Request.ofArguments_eq_convert_iff.mpr asks)
  refine ⟨fun machine => machine.mem_asked_iff, ⟨?_, fun asks => ?_⟩, alike, fun asks machine => ?_⟩
  · rintro ⟨machine, changed⟩
    rw [← Request.ofArguments_eq_convert_iff]
    exact Decidable.of_not_not fun other => changed (machine.run_of_other other)
  · refine ⟨waiting, ?_⟩
    rw [alike asks]
    exact files_of_waiting
  · exact machine.declines_of_other (mt Request.ofArguments_eq_convert_iff.mp asks)

/-- A letter asks for a text whatever follows it, and a flag after two dashes asks for nothing. -/
theorem arguments_gate_conversion_of_help :
    let helped := [Utf8.encode "-hx", Utf8.encode "--"]
    let ended := [Utf8.encode "--", Utf8.encode "--help", Utf8.encode "-h"]
    ¬ AsksToConvert helped ∧ (waiting.run helped).1.status = 0 ∧
      waiting.run helped = waiting.run [Utf8.encode "-hx"] ∧
      ¬ AsksToConvert ended ∧ (waiting.run ended).1.status = 2 ∧
      (waiting.run ended).2.files = waiting.files := by
  intro helped ended
  have one : ¬ AsksToConvert helped := by decide
  have two : ¬ AsksToConvert ended := by decide
  have declines := (arguments_gate_conversion helped).2.2.2 one waiting
  have declined := (arguments_gate_conversion ended).2.2.2 two waiting
  have asked : AsksForText (Utf8.encode "-hx") := by decide
  have unasked : ¬ AsksForText (Utf8.encode "--") := by decide
  have failed : (waiting.run ended).1.status ≠ 0 := by
    intro zero
    obtain ⟨first, head, asks⟩ := declined.told.mp zero
    cases head
    exact unasked asks
  exact ⟨one, declines.told.mpr ⟨_, rfl, asked⟩, (declines.later _ rfl).symm, two,
    (declined.refused failed).1, declined.files⟩

end Machine

end GroupKey.Command
