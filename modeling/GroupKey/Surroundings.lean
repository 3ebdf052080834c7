import GroupKey.Conversion
import GroupKey.Files.Write
import GroupKey.Writer

/-!
Conversions in surroundings that are described in full: a directory tree, a writer for the
confirmation line, and the log so far.
-/

namespace GroupKey

/-- What a conversion finds and leaves. -/
structure Surroundings where
  files : FileSystem
  out : Writer := {}
  log : List Log.Record := []

namespace Surroundings

def withOut {α : Type} (act : Writer → α × Writer) : StateM Surroundings α :=
  modifyGet fun s => ((act s.out).1, { s with out := (act s.out).2 })

def withFiles {α : Type} (act : FileSystem → α × FileSystem) : StateM Surroundings α :=
  modifyGet fun s => ((act s.files).1, { s with files := (act s.files).2 })

def outlet : Outlet (StateM Surroundings) where
  print data := withOut (·.writeAll data)
  flush := withOut Writer.flush
  save path content := withFiles (·.write path content)
  record record := modify fun s => { s with log := s.log ++ [record] }

def writeKey (s : Surroundings) (path : Path) (bytes : Bytes) :
    Except Failure Unit × Surroundings :=
  (outlet.writeKey path bytes).run.run s

def convert (s : Surroundings) (config : Config) : Except Failure Conversion × Surroundings :=
  (config.convert outlet).run.run s

theorem run_print (data : Bytes) (s : Surroundings) :
    (attempt .stdout (outlet.print data)).run.run s =
      ((s.out.writeAll data).1.mapError .stdout, { s with out := (s.out.writeAll data).2 }) := rfl

theorem run_flush (s : Surroundings) :
    (attempt .stdout outlet.flush).run.run s =
      (s.out.flush.1.mapError .stdout, { s with out := s.out.flush.2 }) := rfl

theorem run_writeKey (path : Path) (bytes : Bytes) (s : Surroundings) :
    (outlet.writeKey path bytes).run.run s =
      ((s.files.write path bytes).1.mapError (.file path),
        { s with files := (s.files.write path bytes).2 }) := rfl

theorem run_record (record : Log.Record) (s : Surroundings) :
    (liftM (outlet.record record) : ExceptT Failure (StateM Surroundings) Unit).run.run s =
      (.ok (), { s with log := s.log ++ [record] }) := rfl

theorem convert_of_key_error {s : Surroundings} {config : Config} {error : InputError}
    (h : config.key = .error error) : s.convert config = (.error (.input error), s) := by
  simp only [convert, Config.convert, h]
  rfl

/-- With a key each stage begins where the one before it has succeeded: the line, its end, the
flush and the file. -/
theorem convert_of_key_ok {s : Surroundings} {config : Config} {bytes : Bytes}
    (h : config.key = .ok bytes) :
    s.convert config =
      let begun := { s with log := s.log ++ [Log.decoded bytes.length config.output] }
      match s.out.writeAll (Utf8.encode (confirmationLine config.groupId)) with
      | (.error error, out) => (.error (.stdout error), { begun with out })
      | (.ok _, out) =>
        match out.writeAll (Utf8.encode "\n") with
        | (.error error, out) => (.error (.stdout error), { begun with out })
        | (.ok _, out) =>
          match out.flush with
          | (.error error, out) => (.error (.stdout error), { begun with out })
          | (.ok _, out) =>
            match s.files.write config.output bytes with
            | (.error error, files) =>
              (.error (.file config.output error), { begun with out, files })
            | (.ok _, files) =>
              (.ok ⟨bytes, config.output⟩,
                { out, files, log := begun.log ++ [Log.wrote bytes.length config.output] }) := by
  have decoded : (ExceptT.mk (pure (config.key.mapError .input)) :
      ExceptT Failure (StateM Surroundings) Bytes).run.run s = (.ok bytes, s) := by rw [h]; rfl
  simp only [convert, Config.convert, Outlet.printLine, bind_assoc, run_bind, decoded, run_record,
    run_print, run_flush, run_writeKey]
  rcases s.out.writeAll (Utf8.encode (confirmationLine config.groupId)) with ⟨_ | _, printed⟩
  · rfl
  simp only [mapError_ok]
  rcases printed.writeAll (Utf8.encode "\n") with ⟨_ | _, ended⟩
  · rfl
  simp only [mapError_ok]
  rcases ended.flush with ⟨_ | _, flushed⟩
  · rfl
  simp only [mapError_ok]
  rcases s.files.write config.output bytes with ⟨_ | _, files⟩ <;> rfl

end Surroundings

end GroupKey
