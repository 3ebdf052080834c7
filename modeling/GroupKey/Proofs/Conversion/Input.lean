import GroupKey.Proofs.Conversion.Failure
import GroupKey.Proofs.Conversion.Success

/-!
# From an environment to a conversion

The value of the variable decides what becomes of a run, by three questions in this order: whether
it is there, whether it is text, and whether its digits pair up.

* `ofValue?_eq_ok_iff`: a configuration holds the very bytes of the value;
* `convertFrom_spec`: what each kind of value leads to.
-/

namespace GroupKey

namespace Config

theorem ofLookup_eq {m : Type → Type} [Monad m] [LawfulMonad m]
    (lookup : String → m (Option Bytes)) : ofLookup lookup = ofValue? <$> lookup "GROUP_ID" :=
  bind_pure_comp ofValue? (lookup "GROUP_ID")

/-- What a configuration holds is the very bytes of the value. -/
theorem ofValue?_eq_ok_iff {value : Option Bytes} {config : Config} :
    ofValue? value = .ok config ↔
      ∃ raw, value = some raw ∧ Utf8.encode config.groupId = raw ∧
        config.output = .ofString "key.der" := by
  constructor
  · intro h
    unfold ofValue? at h
    split at h
    · cases h
    · next raw =>
      split at h
      · cases h
      · next groupId found =>
        cases h
        exact ⟨raw, rfl, Utf8.decode?_eq_some_iff.mp found, rfl⟩
  · rintro ⟨raw, rfl, text, output⟩
    have found : Utf8.decode? raw = some config.groupId := Utf8.decode?_eq_some_iff.mpr text
    cases config
    cases output
    simp only [ofValue?, found]
    rfl

theorem ofValue?_of_not_wellFormed {raw : Bytes} (h : ¬ Utf8.WellFormed raw) :
    ofValue? (some raw) = .error (.notUnicode "GROUP_ID") := by
  rw [ofValue?, Utf8.decode?_eq_none_iff.mpr h]
  rfl

theorem ofValue?_of_wellFormed {raw : Bytes} (h : Utf8.WellFormed raw) :
    ∃ config, ofValue? (some raw) = .ok config ∧ config.digits = raw ∧
      config.output = .ofString "key.der" := by
  obtain ⟨groupId, text⟩ := Utf8.wellFormed_iff.mp h
  exact ⟨ofKey groupId, ofValue?_eq_ok_iff.mpr ⟨raw, rfl, text, rfl⟩, text, rfl⟩

end Config

theorem Hex.Paired.wellFormed {raw : Bytes} (h : Hex.Paired raw) : Utf8.WellFormed raw := by
  have ascii : ∀ b ∈ raw, b.toNat < 0x80 := fun b found => (Hex.isDigit_bounds (h.digits b found)).2
  clear h
  induction raw with
  | nil => exact .nil
  | cons b rest ih =>
    have first := ascii b List.mem_cons_self
    exact .cons (.one (by omega)) (ih fun b found => ascii b (List.mem_cons_of_mem _ found))

/-- The lookup is asked once; the rest is done with what it has found. -/
theorem convertFound_eq {m : Type → Type} [Monad m] [LawfulMonad m]
    (lookup : String → m (Option Bytes)) (outlet : Outlet m) :
    (convertFound lookup outlet).run = lookup "GROUP_ID" >>= fun found =>
      match Config.ofValue? found with
      | .error error => pure (.error (.input error))
      | .ok config => (config.convert outlet).run := by
  rw [convertFound, Config.ofLookup_eq, ExceptT.run_bind]
  simp only [ExceptT.run_mk, map_eq_pure_bind, bind_assoc, pure_bind]
  congr 1
  funext found
  cases Config.ofValue? found <;> rfl

/-! ## What each kind of value leads to -/

namespace Surroundings

def convertFrom (s : Surroundings) (env : Environment) : Except Failure Conversion × Surroundings :=
  (convertFound (fun name => pure (env.value? name)) outlet).run.run s

/-- A run that found no key in the variable. It leaves everything as it was; nothing was asked of
its outlet, nor would be of any other. -/
structure Refused (s : Surroundings) (env : Environment) (error : InputError) : Prop where
  ends : s.convertFrom env = (.error (.input error), s)
  kind : (Failure.input error).kind = .invalidInput
  named : error.variableName = "GROUP_ID"
  unasked : ∀ (m : Type → Type) [Monad m] [LawfulMonad m] (outlet : Outlet m),
    (convertFound (fun name => pure (env.value? name)) outlet).run = pure (.error (.input error))

/-- A run that found a key and began to print it. What the writer takes of the line is what it has
room for, and all of it if it has room for all. -/
structure Begins (s : Surroundings) (env : Environment) (raw : Bytes) : Prop where
  text : Utf8.WellFormed raw
  no_refusal : ∀ error, (s.convertFrom env).1 ≠ .error (.input error)
  log : ∃ more, (s.convertFrom env).2.log = s.log ++
    { level := .debug
      target := "derhex2bin_lib"
      text := "decoded " ++ decimal (raw.length / 2) ++ " bytes, writing to key.der" } :: more
  accepted : (s.convertFrom env).2.out.accepted = s.out.accepted ++
    (Utf8.encode "GROUP_ID=" ++ raw ++ Utf8.encode "\n").take (s.out.capacity (raw.length + 10))
  whole : s.out.HasRoom (raw.length + 10) → (s.convertFrom env).2.out.accepted =
    s.out.accepted ++ (Utf8.encode "GROUP_ID=" ++ raw ++ Utf8.encode "\n")

variable {s : Surroundings} {env : Environment}

theorem convertFrom_of_error {error : InputError}
    (h : Config.ofValue? (env.value? "GROUP_ID") = .error error) :
    s.convertFrom env = (.error (.input error), s) := by
  rw [convertFrom, convertFound_eq, pure_bind, h]
  rfl

theorem convertFrom_of_ok {config : Config}
    (h : Config.ofValue? (env.value? "GROUP_ID") = .ok config) :
    s.convertFrom env = s.convert config := by
  rw [convertFrom, convertFound_eq, pure_bind, h]
  rfl

theorem convertFrom_cases (s : Surroundings) (env : Environment) :
    (∃ error, s.convertFrom env = (.error (.input error), s)) ∨
    ∃ config, Config.ofValue? (env.value? "GROUP_ID") = .ok config ∧
      s.convertFrom env = s.convert config := by
  cases found : Config.ofValue? (env.value? "GROUP_ID") with
  | error error => exact .inl ⟨error, convertFrom_of_error found⟩
  | ok config => exact .inr ⟨config, rfl, convertFrom_of_ok found⟩

theorem files_of_refusal {failure : Failure} (h : (s.convertFrom env).1 = .error failure) :
    (s.convertFrom env).2.files = s.files := by
  rcases s.convertFrom_cases env with ⟨error, refused⟩ | ⟨config, _, converts⟩
  · rw [refused]
  · rw [converts] at h ⊢
    exact files_of_error h

theorem exists_log_of_paired {config : Config} (paired : Hex.Paired config.digits)
    (output : config.output = .ofString "key.der") :
    ∃ more, (s.convert config).2.log = s.log ++
      { level := .debug
        target := "derhex2bin_lib"
        text := "decoded " ++ decimal (config.digits.length / 2) ++
          " bytes, writing to key.der" } :: more := by
  have shown : Utf8.lossy config.output.bytes = "key.der" := by
    rw [output]
    exact Utf8.lossy_encode "key.der"
  have told (count : String) : "decoded " ++ count ++ " bytes, writing to key.der" =
      "decoded " ++ count ++ " bytes, writing to " ++ Utf8.lossy config.output.bytes := by
    have parts : " bytes, writing to key.der" = " bytes, writing to " ++ "key.der" := rfl
    rw [shown, parts, ← String.append_assoc]
  rw [told]
  cases h : (s.convert config).1 with
  | ok conversion => exact ⟨_, (succeeded_of_ok h).log⟩
  | error failure =>
    have stopped := stopped_of_error h
    cases failure with
    | input error => exact absurd paired (exists_input_iff.mp ⟨error, h⟩)
    | stdout cause => exact ⟨[], StoppedAtLine.log stopped⟩
    | file path cause => exact ⟨[], StoppedAtFile.log stopped⟩

theorem refused_of_no_config {error : InputError} (named : error.variableName = "GROUP_ID")
    (h : Config.ofValue? (env.value? "GROUP_ID") = .error error) : Refused s env error := by
  refine ⟨convertFrom_of_error h, rfl, named, fun m _ _ outlet => ?_⟩
  rw [convertFound_eq, pure_bind, h]

theorem refused_of_unpaired {raw : Bytes} (h : env.value? "GROUP_ID" = some raw)
    (text : Utf8.WellFormed raw) (unpaired : ¬ Hex.Paired raw) :
    ∃ defect, Refused s env (.notHex "GROUP_ID" defect) := by
  obtain ⟨config, found, digits, _⟩ := Config.ofValue?_of_wellFormed text
  rw [← h] at found
  rw [← digits] at unpaired
  obtain ⟨defect, _, no_key, ends⟩ := s.convert_unreadable unpaired
  refine ⟨defect, (convertFrom_of_ok found).trans ends, rfl, rfl, fun m _ _ outlet => ?_⟩
  rw [convertFound_eq, pure_bind, found]
  exact Config.convert_of_unreadable no_key outlet

theorem begins_of_paired {raw : Bytes} (h : env.value? "GROUP_ID" = some raw)
    (paired : Hex.Paired raw) : Begins s env raw := by
  obtain ⟨config, found, digits, output⟩ := Config.ofValue?_of_wellFormed paired.wellFormed
  have line : Utf8.encode "GROUP_ID=" ++ raw ++ Utf8.encode "\n" = config.line := by
    rw [config.line_eq_digits, digits]
    rfl
  have length : raw.length + 10 = config.line.length := by rw [config.length_line, digits]
  rw [← h] at found
  obtain ⟨bytes, spells⟩ := Hex.exists_spells_iff.mpr (digits ▸ paired)
  obtain ⟨more, log⟩ := s.exists_log_of_paired (digits ▸ paired) output
  have run := s.convertFrom_of_ok found
  have taken := s.accepted_of_spells spells
  exact {
    text := paired.wellFormed
    no_refusal := by
      intro error refused
      rw [run] at refused
      exact exists_input_iff.mp ⟨error, refused⟩ (digits ▸ paired)
    log := ⟨more, by rw [run, log, digits]⟩
    accepted := by rw [run, taken, line, length]
    whole := by
      intro room
      rw [length] at room
      rw [run, taken, line, (s.out.capacity_eq_iff (line_positive config)).mpr room,
        List.take_length] }

/-- **What each kind of value leads to.** A value that is missing, that is not text, or whose digits
do not pair up is refused, and the first of these that holds is the one reported. Any other value
begins to be printed. What a configuration holds is the very bytes of the value, and a lookup is
asked for them once. -/
theorem convertFrom_spec (s : Surroundings) (env : Environment) :
    (env.value? "GROUP_ID" = none → Refused s env (.missing "GROUP_ID")) ∧
    (∀ raw, env.value? "GROUP_ID" = some raw →
      (¬ Utf8.WellFormed raw → Refused s env (.notUnicode "GROUP_ID")) ∧
      (Utf8.WellFormed raw → ¬ Hex.Paired raw →
        ∃ defect, Refused s env (.notHex "GROUP_ID" defect)) ∧
      (Hex.Paired raw → Begins s env raw)) ∧
    (∀ config, (Config.ofLookup (m := Id) fun name => pure (env.value? name)) = .ok config ↔
      ∃ raw, env.value? "GROUP_ID" = some raw ∧ Utf8.encode config.groupId = raw ∧
        config.output = .ofString "key.der") ∧
    ∀ (m : Type → Type) [Monad m] [LawfulMonad m] (lookup : String → m (Option Bytes)),
      Config.ofLookup lookup = Config.ofValue? <$> lookup "GROUP_ID" := by
  refine ⟨fun absent => ?_, fun raw found => ⟨fun ill => ?_, ?_, ?_⟩, fun config => ?_, ?_⟩
  · exact refused_of_no_config rfl (by rw [absent]; rfl)
  · exact refused_of_no_config rfl (by rw [found, Config.ofValue?_of_not_wellFormed ill])
  · exact refused_of_unpaired found
  · exact begins_of_paired found
  · exact Config.ofValue?_eq_ok_iff
  · exact fun m _ _ lookup => Config.ofLookup_eq lookup

/-- Names are told apart by case, and a value that is no text is refused as such, whatever else is
wrong with it. -/
theorem convertFrom_refuses_stray_byte :
    let env : Environment := [("group_id", Utf8.encode "00"), ("GROUP_ID", [0x78, 0x80, 0x30])]
    env.value? "GROUP_ID" = some [0x78, 0x80, 0x30] ∧ ¬ Utf8.WellFormed [0x78, 0x80, 0x30] ∧
      Refused bare env (.notUnicode "GROUP_ID") := by
  intro env
  have found : env.value? "GROUP_ID" = some [0x78, 0x80, 0x30] := by decide
  have ill : ¬ Utf8.WellFormed [0x78, 0x80, 0x30] := Utf8.decode?_eq_none_iff.mp (by decide)
  exact ⟨found, ill, ((convertFrom_spec bare env).2.1 _ found).1 ill⟩

end Surroundings

end GroupKey
