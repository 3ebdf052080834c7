import GroupKey.Command.Request
import GroupKey.Proofs.Text.WellFormed

/-!
# What a command line asks for

* `ofArguments_eq_convert_iff`: a conversion is asked for by nothing, or by two dashes alone;
* `ofArguments_eq_tell_iff`: the text of a flag is asked for by the first argument, which is the
  flag's word or begins with its letter;
* `ofArguments_decisive`: no argument after those that decide is looked at.
-/

namespace GroupKey.Command

/-- A command line that asks for a conversion: nothing at all, or two dashes alone. -/
def AsksToConvert (arguments : List Bytes) : Prop :=
  arguments = [] ∨ arguments = [Utf8.encode "--"]

instance (arguments : List Bytes) : Decidable (AsksToConvert arguments) :=
  inferInstanceAs (Decidable (_ ∨ _))

/-- A first argument that asks for a text. A word has to be there as a whole; of an argument with
one dash the letter is enough. -/
def AsksForText (argument : Bytes) : Prop :=
  argument = Utf8.encode "--help" ∨ argument = Utf8.encode "--version" ∨
    Utf8.encode "-h" <+: argument ∨ Utf8.encode "-V" <+: argument

instance (argument : Bytes) : Decidable (AsksForText argument) :=
  inferInstanceAs (Decidable (_ ∨ _ ∨ _ ∨ _))

/-- The arguments that decide what is asked for: the first, and the one after it if the first is two
dashes. -/
def decisive (arguments : List Bytes) : List Bytes :=
  if arguments.head? = some (Utf8.encode "--") then arguments.take 2 else arguments.take 1

def Flag.short (flag : Flag) : String := String.ofList ['-', flag.letter]

/-- An argument that asks for the text of a flag. -/
def Flag.AskedBy (flag : Flag) (argument : Bytes) : Prop :=
  argument = Utf8.encode flag.long ∨ Utf8.encode flag.short <+: argument

theorem asksForText_iff {argument : Bytes} :
    AsksForText argument ↔ ∃ flag : Flag, flag.AskedBy argument := by
  constructor
  · rintro (help | version | help | version)
    · exact ⟨.help, .inl help⟩
    · exact ⟨.version, .inl version⟩
    · exact ⟨.help, .inr help⟩
    · exact ⟨.version, .inr version⟩
  · rintro ⟨_ | _, long | short⟩
    · exact .inl long
    · exact .inr (.inr (.inl short))
    · exact .inr (.inl long)
    · exact .inr (.inr (.inr short))

theorem Flag.encode_long (flag : Flag) :
    Utf8.encode flag.long = dash :: dash :: Utf8.encode flag.word := by
  cases flag <;> rfl

theorem Flag.encode_short (flag : Flag) :
    Utf8.encode flag.short = dash :: String.utf8EncodeChar flag.letter := by
  cases flag <;> rfl

theorem Flag.not_askedBy_dashes (flag : Flag) : ¬ flag.AskedBy [dash, dash] := by
  unfold Flag.AskedBy
  cases flag <;> decide

namespace Request

variable {flag : Flag} {body argument : Bytes} {arguments : List Bytes}

/-! ## Arguments with two dashes -/

theorem ofLong_word (flag : Flag) : ofLong (Utf8.encode flag.word) = .tell flag := by
  cases flag <;> rfl

theorem ofLong_eq_tell_iff : ofLong body = .tell flag ↔ body = Utf8.encode flag.word := by
  refine ⟨fun told => ?_, fun word => word ▸ ofLong_word flag⟩
  have plain : Utf8.replacement ∉ flag.word.toList := by cases flag <;> decide
  simp only [ofLong] at told
  split at told
  next other found no_value =>
    cases told
    -- Without a value the word is all there is.
    have whole := List.takeWhile_append_dropWhile (p := (· != equals)) (l := body)
    rw [no_value, List.append_nil] at whole
    have same : flag.word = Utf8.lossy (body.takeWhile (· != equals)) := by
      simpa using List.find?_some found
    rw [whole] at same
    exact (Utf8.lossy_eq_iff plain).mp same.symm
  next => cases told
  next => cases told

theorem ofLong_ne_convert (body : Bytes) : ofLong body ≠ .convert := by
  simp only [ofLong]
  split <;> exact Request.noConfusion

/-! ## Arguments with one dash -/

theorem ofShort_letter (flag : Flag) (rest : Bytes) :
    ofShort (String.utf8EncodeChar flag.letter ++ rest) = .tell flag := by
  rw [ofShort, Utf8.pieces, Utf8.scan_utf8EncodeChar]
  cases flag <;> rfl

theorem ofShort_eq_tell_iff :
    ofShort body = .tell flag ↔ String.utf8EncodeChar flag.letter <+: body := by
  constructor
  · intro told
    unfold ofShort at told
    split at told
    next c others cut =>
      split at told
      next other found =>
        cases told
        have letter : flag.letter = c := by simpa using List.find?_some found
        have kept := Utf8.pieces_bytes body
        rw [cut, List.flatMap_cons, ← letter] at kept
        exact ⟨_, kept⟩
      next => cases told
    next => cases told
  · rintro ⟨rest, rfl⟩
    exact ofShort_letter flag rest

theorem ofShort_ne_convert (body : Bytes) : ofShort body ≠ .convert := by
  unfold ofShort
  split
  · split <;> exact Request.noConfusion
  · exact Request.noConfusion

/-! ## The first argument -/

theorem ofFirst_ne_convert (argument : Bytes) : ofFirst argument ≠ .convert := by
  unfold ofFirst
  split
  · split
    · exact ofLong_ne_convert _
    · split
      · exact ofShort_ne_convert _
      · exact Request.noConfusion
  · exact Request.noConfusion

theorem ofWord_ne_tell (word : Bytes) : ofWord word ≠ .tell flag := Request.noConfusion

/-- **The first argument asks for the text of a flag** when it is the flag's word, or begins with
its letter. -/
theorem ofFirst_eq_tell_iff : ofFirst argument = .tell flag ↔ flag.AskedBy argument := by
  unfold Flag.AskedBy
  rw [Flag.encode_long, Flag.encode_short]
  have letter_apart : ∀ rest, ¬ String.utf8EncodeChar flag.letter <+: dash :: rest := by
    intro rest begins
    cases flag <;> simp [Flag.letter, dash, String.utf8EncodeChar] at begins
  -- Which dashes the argument begins with settles how it is read.
  match argument with
  | [] => simp [ofFirst, ofWord]
  | [only] => cases flag <;> simp [ofFirst, ofWord, String.utf8EncodeChar, Flag.letter]
  | first :: second :: rest =>
    by_cases one : first = dash
    · by_cases two : second = dash
      · subst one two
        have long : ofFirst (dash :: dash :: rest) = ofLong rest := rfl
        rw [long, ofLong_eq_tell_iff]
        simp [letter_apart]
      · have short : ofFirst (first :: second :: rest) = ofShort (second :: rest) := by
          simp [ofFirst, one, two]
        rw [short, ofShort_eq_tell_iff]
        simp [one, two]
    · have word : ofFirst (first :: second :: rest) = ofWord (first :: second :: rest) := by
        simp [ofFirst, one]
      rw [word]
      simp [one, Ne.symm one, ofWord]

/-! ## The command line -/

theorem ofArguments_cons (h : argument ≠ [dash, dash]) (rest : List Bytes) :
    ofArguments (argument :: rest) = ofFirst argument := if_neg h

theorem ofArguments_eq_convert_iff : ofArguments arguments = .convert ↔ AsksToConvert arguments := by
  refine ⟨fun convert => ?_, ?_⟩
  · cases arguments with
    | nil => exact .inl rfl
    | cons first rest =>
      by_cases dashes : first = [dash, dash]
      · cases rest with
        | nil => exact .inr (congrArg ([·]) dashes)
        | cons next others =>
          subst dashes
          cases convert
      · rw [ofArguments_cons dashes] at convert
        exact absurd convert (ofFirst_ne_convert first)
  · rintro (rfl | rfl) <;> rfl

theorem ofArguments_eq_tell_iff :
    ofArguments arguments = .tell flag ↔ ∃ first ∈ arguments.head?, flag.AskedBy first := by
  cases arguments with
  | nil => simp [ofArguments]
  | cons first rest =>
    have head : (∃ a ∈ (first :: rest).head?, flag.AskedBy a) ↔ flag.AskedBy first := by simp
    rw [head]
    by_cases dashes : first = [dash, dash]
    · subst dashes
      refine iff_of_false (fun told => ?_) flag.not_askedBy_dashes
      cases rest with
      | nil => cases told
      | cons next others => exact ofWord_ne_tell next told
    · rw [ofArguments_cons dashes, ofFirst_eq_tell_iff]

/-- **No argument after those that decide is looked at.** -/
theorem ofArguments_decisive (arguments : List Bytes) :
    ofArguments (decisive arguments) = ofArguments arguments := by
  cases arguments with
  | nil => rfl
  | cons first rest =>
    by_cases dashes : first = [dash, dash]
    · subst dashes
      cases rest <;> rfl
    · have alone : decisive (first :: rest) = [first] :=
        if_neg fun same => dashes (Option.some.inj same)
      rw [alone, ofArguments_cons dashes, ofArguments_cons dashes]

end Request

end GroupKey.Command
