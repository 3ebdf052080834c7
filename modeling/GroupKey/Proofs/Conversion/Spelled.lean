import GroupKey.Proofs.Conversion.Equality
import GroupKey.Proofs.Text.Quoting

/-!
# What a value spelled out tells

Configurations, conversions and errors can be spelled out on one line. The line tells all of the
value: a text inside it is quoted, so that it cannot be taken for what stands around it.

* `Config.spelled_injective`, `Conversion.spelled_injective`, `InputError.spelled_injective`: no two
  values are spelled alike;
* `spelled_tells_apart`: which values are spelled alike, and what that has to do with equality.
-/

namespace GroupKey

open Text Quoted

namespace Config

theorem spelled_injective : Function.Injective spelled := by
  have whole := (legible_record_two legible_text legible_bytes "Config" "group_id" "output").injective
  rintro ⟨groupId, ⟨output⟩⟩ ⟨groupId', ⟨output'⟩⟩ same
  have parts := @whole (groupId, output) (groupId', output') (String.ofList_injective same)
  cases parts
  rfl

theorem spelled_eq_iff {a b : Config} :
    a.spelled = b.spelled ↔ a.groupId = b.groupId ∧ a.output.bytes = b.output.bytes := by
  obtain ⟨groupId, ⟨output⟩⟩ := a
  obtain ⟨groupId', ⟨output'⟩⟩ := b
  rw [spelled_injective.eq_iff, Config.mk.injEq, Path.mk.injEq]

end Config

namespace Conversion

theorem legible_byte : Legible fun b : UInt8 => (decimal b.toNat).toList :=
  legible_decimal.comp fun _ _ same => UInt8.toNat_inj.mp same

theorem spelled_injective : Function.Injective spelled := by
  have begins (b : UInt8) : ∃ c more, (decimal b.toNat).toList = c :: more ∧ c ≠ ']' := by
    rw [decimal, String.toList_ofList]
    obtain ⟨c, more, digits⟩ := List.exists_cons_of_ne_nil (Nat.toDigits_ne_nil (b := 10) (n := b.toNat))
    refine ⟨c, more, digits, ?_⟩
    rintro rfl
    have digit := Nat.isDigit_of_mem_toDigits (n := b.toNat) (by omega) (by omega)
      (digits ▸ List.mem_cons_self)
    exact absurd digit (by decide)
  have whole := (legible_record_two (legible_sequence legible_byte begins) legible_bytes
    "Conversion" "bytes" "path").injective
  rintro ⟨bytes, ⟨path⟩⟩ ⟨bytes', ⟨path'⟩⟩ same
  have parts := @whole (bytes, path) (bytes', path') (String.ofList_injective same)
  cases parts
  rfl

theorem spelled_eq_iff {x y : Conversion} :
    x.spelled = y.spelled ↔ x.bytes = y.bytes ∧ x.path.bytes = y.path.bytes := by
  obtain ⟨bytes, ⟨path⟩⟩ := x
  obtain ⟨bytes', ⟨path'⟩⟩ := y
  rw [spelled_injective.eq_iff, Conversion.mk.injEq, Path.mk.injEq]

end Conversion

/-- Defects are told apart by their eighth letter, and two of the same kind by what they hold. -/
theorem Hex.legible_defect : Legible Hex.Defect.spelled := by
  have bad_digits := legible_record_two legible_char legible_decimal
    "InvalidHexCharacter" "c" "index"
  intro defect defect' rest rest' ends ends' same
  have eighth := congrArg (fun form => form[7]?) same
  cases defect with
  | oddLength =>
    cases defect' with
    | oddLength => exact ⟨rfl, List.append_cancel_left same⟩
    | invalidLength => exact absurd (show some 't' = some 'S' from eighth) (by decide)
    | badDigit c index => exact absurd (show some 't' = some 'H' from eighth) (by decide)
  | invalidLength =>
    cases defect' with
    | oddLength => exact absurd (show some 'S' = some 't' from eighth) (by decide)
    | invalidLength => exact ⟨rfl, List.append_cancel_left same⟩
    | badDigit c index => exact absurd (show some 'S' = some 'H' from eighth) (by decide)
  | badDigit c index =>
    cases defect' with
    | oddLength => exact absurd (show some 'H' = some 't' from eighth) (by decide)
    | invalidLength => exact absurd (show some 'H' = some 'S' from eighth) (by decide)
    | badDigit c' index' =>
      obtain ⟨parts, follows⟩ := bad_digits (a := (c, index)) (b := (c', index')) ends ends' same
      cases parts
      exact ⟨rfl, follows⟩

namespace InputError

/-- Errors are told apart by their first letter, and two of the same kind by what they hold. -/
theorem spelled_injective : Function.Injective spelled := by
  have missing := (legible_record_one legible_text "MissingInput" "var").injective
  have not_unicode := (legible_record_one legible_text "NonUnicodeInput" "var").injective
  have not_hex := (legible_record_two legible_text Hex.legible_defect
    "InvalidHex" "var" "source").injective
  intro error error' same
  have forms := String.ofList_injective same
  have first := congrArg List.head? forms
  cases error with
  | missing name =>
    cases error' with
    | missing name' => exact congrArg InputError.missing (missing forms)
    | notUnicode name' => exact absurd (show some 'M' = some 'N' from first) (by decide)
    | notHex name' defect' => exact absurd (show some 'M' = some 'I' from first) (by decide)
  | notUnicode name =>
    cases error' with
    | missing name' => exact absurd (show some 'N' = some 'M' from first) (by decide)
    | notUnicode name' => exact congrArg InputError.notUnicode (not_unicode forms)
    | notHex name' defect' => exact absurd (show some 'N' = some 'I' from first) (by decide)
  | notHex name defect =>
    cases error' with
    | missing name' => exact absurd (show some 'I' = some 'M' from first) (by decide)
    | notUnicode name' => exact absurd (show some 'I' = some 'N' from first) (by decide)
    | notHex name' defect' =>
      have parts := @not_hex (name, defect) (name', defect') forms
      cases parts
      rfl

end InputError

/-- **What a value spelled out tells** is all of the value. Configurations are spelled alike if they
ask for the same text in the very same path, conversions if they have written the same bytes to the
very same path, and errors if they are the same. So what is spelled alike is equal, but not the
other way round, since equal paths may have different bytes. -/
theorem spelled_tells_apart :
    (∀ a b : Config,
      a.spelled = b.spelled ↔ a.groupId = b.groupId ∧ a.output.bytes = b.output.bytes) ∧
    (∀ x y : Conversion,
      x.spelled = y.spelled ↔ x.bytes = y.bytes ∧ x.path.bytes = y.path.bytes) ∧
    (∀ e f : InputError, e.spelled = f.spelled ↔ e = f) ∧
    (∀ a b : Config, a.spelled = b.spelled → (a == b) = true) ∧
    (∀ x y : Conversion, x.spelled = y.spelled → (x == y) = true) ∧
    (∃ a b : Config, (a == b) = true ∧ a.spelled ≠ b.spelled) ∧
    ∃ x y : Conversion, (x == y) = true ∧ x.spelled ≠ y.spelled := by
  refine ⟨fun _ _ => Config.spelled_eq_iff, fun _ _ => Conversion.spelled_eq_iff,
    fun _ _ => InputError.spelled_injective.eq_iff, fun a b same => ?_, fun x y same => ?_, ?_, ?_⟩
  · cases Config.spelled_injective same
    exact Config.beq_equivalence.refl a
  · cases Conversion.spelled_injective same
    exact Conversion.beq_iff.mpr ⟨rfl, rfl⟩
  · refine ⟨⟨"00", .ofString "keys/key.der"⟩, ⟨"00", .ofString "keys//key.der"⟩, by decide, ?_⟩
    intro same
    exact absurd (Config.spelled_eq_iff.mp same).2 (by decide)
  · refine ⟨⟨[0], .ofString "keys/key.der"⟩, ⟨[0], .ofString "keys//key.der"⟩, by decide, ?_⟩
    intro same
    exact absurd (Conversion.spelled_eq_iff.mp same).2 (by decide)

/-- A path with a byte that is no text, made in two ways, and one with a text that looks like the
spelling of that byte. -/
theorem spelled_tells_apart_of_lookalikes :
    let stray : Config := ⟨"00", ⟨[0xFF]⟩⟩
    let remade : Config := (Config.ofKey "00").withOutput ⟨[0xFF]⟩
    let lookalike : Config := ⟨"00", .ofString "\x5cxFF"⟩
    stray.spelled = remade.spelled ∧ (stray == remade) = true ∧
      stray.spelled ≠ lookalike.spelled := by
  intro stray remade lookalike
  obtain ⟨configs, _, _, equal, _⟩ := spelled_tells_apart
  have same : stray.spelled = remade.spelled := rfl
  have other : stray.output.bytes ≠ lookalike.output.bytes := by decide
  exact ⟨same, equal stray remade same, fun alike => other ((configs stray lookalike).mp alike).2⟩

end GroupKey
