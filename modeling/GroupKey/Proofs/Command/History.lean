import GroupKey.Proofs.Command.Runs
import GroupKey.Proofs.Files.Trace

/-!
# Histories of a directory tree

Files are written, keys are converted and the command is run, in any order and with nothing else at
work on the tree.

* `comes`: an action makes the write that it was to make, or it leaves the tree alone;
* `perform_traced`, `performAll_traced`: what was written accounts for the tree, after one action
  and after all;
* `history_provenance`: where everything in the tree comes from.
-/

namespace GroupKey

inductive Action where
  | write (path : Path) (bytes : Bytes)
  /-- To convert a key, with the line going to a writer. -/
  | convert (config : Config) (out : Writer)
  | command (arguments : List Bytes) (environment : Environment) (out : Writer)

namespace Action

def perform (fs : FileSystem) : Action → FileSystem
  | .write path bytes => (Surroundings.writeKey { files := fs } path bytes).2.files
  | .convert config out => (Surroundings.convert { files := fs, out } config).2.files
  | .command arguments environment out =>
    (Command.Machine.run { environment, files := fs, out } arguments).2.files

def keyIn? (environment : Environment) : Option Bytes := do
  let raw ← environment.value? "GROUP_ID"
  let text ← Utf8.decode? raw
  (Hex.decode text).toOption

/-- The path and the content that an action is to write, if there is a key for it. -/
def asked? : Action → Option (Path × Bytes)
  | .write path bytes => some (path, bytes)
  | .convert config _ => config.key.toOption.map (config.output, ·)
  | .command _ environment _ => (keyIn? environment).map (.ofString "key.der", ·)

/-- Whether an action has succeeded in writing. A run of the command has when it is one that
converts and its status is zero. -/
def succeeds (fs : FileSystem) : Action → Bool
  | .write path bytes => (Surroundings.writeKey { files := fs } path bytes).1.isOk
  | .convert config out => (Surroundings.convert { files := fs, out } config).1.isOk
  | .command arguments environment out =>
    Command.Request.ofArguments arguments = .convert ∧
      (Command.Machine.run { environment, files := fs, out } arguments).1.status = 0

def written? (fs : FileSystem) (action : Action) : Option (Path × Bytes) :=
  if action.succeeds fs then action.asked? else none

def performAll (fs : FileSystem) (actions : List Action) : FileSystem := actions.foldl perform fs

def writes (fs : FileSystem) : List Action → List (Path × Bytes)
  | [] => []
  | action :: rest => (action.written? fs).toList ++ writes (action.perform fs) rest

/-- What an action comes to for the tree: the write that it was to make, or nothing. -/
def Comes (fs : FileSystem) (action : Action) : Prop :=
  (action.succeeds fs = false ∧ action.perform fs = fs) ∨
  ∃ path bytes, action.succeeds fs = true ∧ action.asked? = some (path, bytes) ∧
    (fs.write path bytes).1 = .ok () ∧ action.perform fs = (fs.write path bytes).2

variable {fs : FileSystem}

theorem comes_of_write (path : Path) (bytes : Bytes) : (write path bytes).Comes fs := by
  have succeeds : (write path bytes).succeeds fs =
      ((fs.write path bytes).1.mapError (Failure.file path)).isOk := rfl
  cases h : (fs.write path bytes).1 with
  | error error => exact .inl ⟨by rw [succeeds, h]; rfl, FileSystem.write_of_error h⟩
  | ok _ => exact .inr ⟨path, bytes, by rw [succeeds, h]; rfl, rfl, h, rfl⟩

theorem comes_of_convert (config : Config) (out : Writer) : (convert config out).Comes fs := by
  cases h : (Surroundings.convert { files := fs, out } config).1 with
  | error failure => exact .inl ⟨by rw [succeeds, h]; rfl, Surroundings.files_of_error h⟩
  | ok conversion =>
    obtain ⟨spells, _, _, _, written, left⟩ := Surroundings.convert_eq_ok h
    have key := Config.key_eq_ok_iff.mpr spells
    refine .inr ⟨config.output, conversion.bytes, ?_, ?_, written, ?_⟩
    · rw [succeeds, h]
      rfl
    · rw [asked?, key]
      rfl
    · rw [perform, left]

theorem convertFrom_eq_ok {s : Surroundings} {environment : Environment} {conversion : Conversion}
    (h : (s.convertFrom environment).1 = .ok conversion) :
    keyIn? environment = some conversion.bytes ∧
      (s.files.write (.ofString "key.der") conversion.bytes).1 = .ok () ∧
      (s.convertFrom environment).2.files =
        (s.files.write (.ofString "key.der") conversion.bytes).2 := by
  rcases s.convertFrom_cases environment with ⟨error, refused⟩ | ⟨config, found, converts⟩
  · rw [refused] at h
    cases h
  · rw [converts] at h ⊢
    obtain ⟨raw, value, text, output⟩ := Config.ofValue?_eq_ok_iff.mp found
    obtain ⟨spells, _, _, _, written, left⟩ := Surroundings.convert_eq_ok h
    have key := Hex.decode_eq_ok_iff.mpr spells
    rw [output] at written
    refine ⟨?_, written, by rw [left, output]⟩
    simp [keyIn?, value, Utf8.decode?_eq_some_iff.mpr text, key, Except.toOption]

theorem comes_of_command (arguments : List Bytes) (environment : Environment) (out : Writer) :
    (command arguments environment out).Comes fs := by
  let machine : Command.Machine := { environment, files := fs, out }
  by_cases asked : Command.Request.ofArguments arguments = .convert
  · have outcome := machine.outcome_of_convert asked
    have files := machine.files_of_convert asked
    cases h : (machine.surroundings.convertFrom machine.environment).1 with
    | error failure =>
      have fails : (machine.run arguments).1.status ≠ 0 := by
        rw [outcome, h]
        exact Nat.one_ne_zero
      exact .inl ⟨decide_eq_false fun done => fails done.2, files.trans (Surroundings.files_of_refusal h)⟩
    | ok conversion =>
      obtain ⟨key, written, left⟩ := convertFrom_eq_ok h
      have done : (machine.run arguments).1.status = 0 := by
        rw [outcome, h]
        rfl
      refine .inr ⟨_, conversion.bytes, decide_eq_true ⟨asked, done⟩, ?_, written,
        files.trans left⟩
      rw [asked?, key]
      rfl
  · exact .inl ⟨decide_eq_false fun done => asked done.1, machine.run_of_other asked⟩

/-- Whatever is done is the one write that was asked for, or it leaves the tree alone. -/
theorem comes (fs : FileSystem) (action : Action) : action.Comes fs := by
  cases action with
  | write path bytes => exact comes_of_write path bytes
  | convert config out => exact comes_of_convert config out
  | command arguments environment out => exact comes_of_command arguments environment out

/-! ## Actions in a row -/

theorem perform_traced {start : FileSystem} {writes : List (Path × Bytes)}
    (h : start.Traced writes fs) (action : Action) :
    start.Traced (writes ++ (action.written? fs).toList) (action.perform fs) := by
  rcases action.comes fs with ⟨fails, kept⟩ | ⟨path, bytes, succeeds, asked, written, left⟩
  · have nothing : action.written? fs = none := by simp [written?, fails]
    rw [nothing, kept, Option.toList_none, List.append_nil]
    exact h
  · have wrote : action.written? fs = some (path, bytes) := by simp [written?, succeeds, asked]
    rw [wrote, left]
    exact h.write written

/-- Actions in a row are accounted for by all that they have written. -/
theorem performAll_traced {start : FileSystem} {before : List (Path × Bytes)}
    (h : start.Traced before fs) (actions : List Action) :
    start.Traced (before ++ writes fs actions) (performAll fs actions) := by
  -- The start stays what it is; where the rest begins and what was written before it change.
  induction actions generalizing fs before with
  | nil =>
    rw [writes, List.append_nil]
    exact h
  | cons action rest ih =>
    have goes_on := ih (perform_traced h action)
    rw [List.append_assoc] at goes_on
    exact goes_on

/-- **Where everything in a tree comes from.** Whatever has been done to a tree, what was written by
the actions that succeeded accounts for all of it. If the next action succeeds, it writes what it
was to write, to the place that its path led to at the start; if not, it leaves the tree as it is. -/
theorem history_provenance (start : FileSystem) (done : List Action) :
    start.Provenance (writes start done) (performAll start done) ∧
    ∀ next : Action,
      (next.succeeds (performAll start done) = false →
        next.perform (performAll start done) = performAll start done) ∧
      (next.succeeds (performAll start done) = true →
        ∃ path bytes place, next.asked? = some (path, bytes) ∧
          start.destination path = .ok place ∧
          (performAll start done).Updated place bytes (next.perform (performAll start done))) := by
  have traced := performAll_traced (FileSystem.Traced.refl start) done
  rw [List.nil_append] at traced
  refine ⟨traced.provenance, fun next => ?_⟩
  rcases next.comes (performAll start done) with
    ⟨fails, kept⟩ | ⟨path, bytes, succeeds, asked, written, left⟩
  · exact ⟨fun _ => kept, fun succeeds => by simp [fails] at succeeds⟩
  · refine ⟨fun fails => by simp [succeeds] at fails, fun _ => ?_⟩
    obtain ⟨place, leads, updated⟩ := FileSystem.write_of_ok written
    rw [← left] at updated
    exact ⟨path, bytes, place, asked, (FileSystem.destination_stable traced.frame).mpr leads,
      updated⟩

/-- A tree with nothing but a link to a file that is not there. -/
def dangling : FileSystem :=
  (FileSystem.mk ∅ []).put [Utf8.encode "key.der"] (.link (.ofString "real.der"))

theorem dangling_wellFormed : dangling.WellFormed := by
  refine ⟨fun name dir node found => ?_, rfl⟩
  unfold dangling at found ⊢
  by_cases here : name :: dir = [Utf8.encode "key.der"]
  · cases here
    rfl
  · rw [FileSystem.node?_put_of_ne _ _ (Ne.symm here)] at found
    simp [FileSystem.node?] at found

/-- The file that a link has made is written by its own name, and then through the link again. -/
theorem history_provenance_dangling :
    let done : List Action := [write (.ofString "key.der") [1], write (.ofString "real.der") [2]]
    let next : Action := write (.ofString "key.der") [3]
    (performAll dangling done).WellFormed ∧
      ∃ path bytes place, next.asked? = some (path, bytes) ∧
        dangling.destination path = .ok place ∧
        (performAll dangling done).Updated place bytes
          (next.perform (performAll dangling done)) := by
  intro done next
  have provenance := history_provenance dangling done
  have succeeds : next.succeeds (performAll dangling done) = true := by decide
  exact ⟨provenance.1.wellFormed dangling_wellFormed, (provenance.2 next).2 succeeds⟩

end Action

end GroupKey
