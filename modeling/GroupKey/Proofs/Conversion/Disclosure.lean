import GroupKey.Proofs.Conversion.Input
import GroupKey.Proofs.Hex.Defects

/-!
# What a conversion tells of its key

How a conversion went and what it noted tell little of the value it was given: of a key its length,
and of a value that is none what kind of value it is and the first byte that is no digit.

* `Indistinct`: values that are not told apart;
* `told_of_paired`: conversions of keys of the same length tell the same;
* `convertFrom_of_indistinct`: so do runs on values that are not told apart.
-/

namespace GroupKey

/-- Values that are not told apart: two keys of the same length, two texts of odd length, two texts
of even length with the same first byte that is no digit in the same place, or two values that are
no texts. -/
inductive Indistinct (v w : Bytes) : Prop
  | keys (left : Hex.Paired v) (right : Hex.Paired w) (length : v.length = w.length)
  | odd (left : Utf8.WellFormed v) (right : Utf8.WellFormed w) (left_odd : v.length % 2 = 1)
      (right_odd : w.length % 2 = 1)
  | fault {place : Nat} {b : UInt8} (left : Utf8.WellFormed v) (right : Utf8.WellFormed w)
      (left_even : v.length % 2 = 0) (right_even : w.length % 2 = 0)
      (left_first : Hex.FirstFault v place b) (right_first : Hex.FirstFault w place b)
  | noText (left : ¬ Utf8.WellFormed v) (right : ¬ Utf8.WellFormed w)

theorem Indistinct.refl (v : Bytes) : Indistinct v v := by
  by_cases text : Utf8.WellFormed v
  · by_cases paired : Hex.Paired v
    · exact .keys paired paired rfl
    · rcases Hex.fault_cases paired with odd | ⟨even, place, b, first⟩
      · exact .odd text text odd odd
      · exact .fault text text even even first first
  · exact .noText text text

namespace Surroundings

/-- Two runs that tell the same: they have noted the same records, and they have both succeeded or
failed in the same way. -/
structure TellsAlike (ran ran' : Except Failure Conversion × Surroundings) : Prop where
  log : ran.2.log = ran'.2.log
  ending : ran.1.map (fun _ => ()) = ran'.1.map (fun _ => ())

variable {s : Surroundings} {env env' : Environment} {config config' : Config}

/-- **Conversions of keys of the same length tell the same.** -/
theorem told_of_paired (paired : Hex.Paired config.digits) (paired' : Hex.Paired config'.digits)
    (length : config.digits.length = config'.digits.length)
    (output : config.output = config'.output) :
    TellsAlike (s.convert config) (s.convert config') := by
  obtain ⟨bytes', spells'⟩ := Hex.exists_spells_iff.mpr paired'
  have line : config.line.length = config'.line.length := by
    rw [config.length_line, config'.length_line, length]
  have count {bytes : Bytes} (spells : Hex.Spells config.digits bytes) :
      bytes.length = bytes'.length := by
    rw [spells.length_eq, spells'.length_eq, length]
  -- Each stage goes the way it goes for the other key, because it depends on lengths alone.
  cases s.course config with
  | unreadable unpaired => exact absurd paired unpaired
  | cutShort spells full =>
    rw [convert_cut_short spells full, convert_cut_short spells' (line ▸ full)]
    exact ⟨by rw [begun, begun, count spells, output], rfl⟩
  | unflushed spells room refused =>
    rw [convert_unflushed spells room refused, convert_unflushed spells' (line ▸ room) refused]
    exact ⟨by rw [begun, begun, count spells, output], rfl⟩
  | unwritten spells room passed refused =>
    rw [convert_unwritten spells room passed refused]
    rw [output, s.files.write_answer_congr config'.output (count spells)] at refused
    rw [convert_unwritten spells' (line ▸ room) passed refused]
    exact ⟨by rw [begun, begun, count spells, output], by rw [output]⟩
  | done spells room passed written =>
    rw [convert_done spells room passed written]
    rw [output, s.files.write_answer_congr config'.output (count spells)] at written
    rw [convert_done spells' (line ▸ room) passed written]
    exact ⟨by rw [count spells, output], rfl⟩

theorem convertFrom_of_defect {raw : Bytes} {defect : Hex.Defect}
    (found : env.value? "GROUP_ID" = some raw) (text : Utf8.WellFormed raw)
    (bad : ∀ groupId, Utf8.encode groupId = raw → Hex.decode groupId = .error defect) :
    s.convertFrom env = (.error (.input (.notHex "GROUP_ID" defect)), s) := by
  obtain ⟨config, chosen, digits, _⟩ := Config.ofValue?_of_wellFormed text
  rw [← found] at chosen
  have no_key : config.key = .error (.notHex "GROUP_ID" defect) := by
    rw [Config.key, readKey, bad config.groupId digits]
    rfl
  rw [convertFrom_of_ok chosen, convert_of_key_error no_key]

theorem convertFrom_of_odd {raw : Bytes} (found : env.value? "GROUP_ID" = some raw)
    (text : Utf8.WellFormed raw) (odd : raw.length % 2 = 1) :
    s.convertFrom env = (.error (.input (.notHex "GROUP_ID" .oddLength)), s) :=
  convertFrom_of_defect found text fun _ same => Hex.decode_of_odd (same ▸ odd)

theorem convertFrom_of_firstFault {raw : Bytes} {place : Nat} {b : UInt8}
    (found : env.value? "GROUP_ID" = some raw) (text : Utf8.WellFormed raw)
    (even : raw.length % 2 = 0) (first : Hex.FirstFault raw place b) :
    s.convertFrom env = (.error (.input (.notHex "GROUP_ID" (.atByte b place))), s) :=
  convertFrom_of_defect found text fun _ same =>
    Hex.decode_of_firstFault (same ▸ even) (same ▸ first)

theorem convertFrom_of_noText {raw : Bytes} (found : env.value? "GROUP_ID" = some raw)
    (noText : ¬ Utf8.WellFormed raw) :
    s.convertFrom env = (.error (.input (.notUnicode "GROUP_ID")), s) :=
  convertFrom_of_error (by rw [found, Config.ofValue?_of_not_wellFormed noText])

/-- **Runs on values that are not told apart** tell the same, and where these are no keys they are
the same. -/
theorem convertFrom_of_indistinct {v w : Bytes} (h : Indistinct v w)
    (found : env.value? "GROUP_ID" = some v) (found' : env'.value? "GROUP_ID" = some w) :
    TellsAlike (s.convertFrom env) (s.convertFrom env') ∧
      (¬ Hex.Paired v → s.convertFrom env = s.convertFrom env') := by
  have alike {ran ran' : Except Failure Conversion × Surroundings} (same : ran = ran') :
      TellsAlike ran ran' := same ▸ ⟨rfl, rfl⟩
  cases h with
  | keys left right length =>
    obtain ⟨config, chosen, digits, output⟩ := Config.ofValue?_of_wellFormed left.wellFormed
    obtain ⟨config', chosen', digits', output'⟩ := Config.ofValue?_of_wellFormed right.wellFormed
    rw [← found] at chosen
    rw [← found'] at chosen'
    rw [← digits] at left
    rw [← digits'] at right
    rw [convertFrom_of_ok chosen, convertFrom_of_ok chosen']
    refine ⟨told_of_paired left right ?_ (output.trans output'.symm), fun unpaired => ?_⟩
    · rw [digits, digits', length]
    · exact absurd (digits ▸ left) unpaired
  | odd left right left_odd right_odd =>
    have same : s.convertFrom env = s.convertFrom env' :=
      (convertFrom_of_odd found left left_odd).trans (convertFrom_of_odd found' right right_odd).symm
    exact ⟨alike same, fun _ => same⟩
  | fault left right left_even right_even left_first right_first =>
    have same : s.convertFrom env = s.convertFrom env' :=
      (convertFrom_of_firstFault found left left_even left_first).trans
        (convertFrom_of_firstFault found' right right_even right_first).symm
    exact ⟨alike same, fun _ => same⟩
  | noText left right =>
    have same : s.convertFrom env = s.convertFrom env' :=
      (convertFrom_of_noText found left).trans (convertFrom_of_noText found' right).symm
    exact ⟨alike same, fun _ => same⟩

end Surroundings

end GroupKey
