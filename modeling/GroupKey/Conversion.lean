import GroupKey.Config
import GroupKey.Log.Record

/-!
The conversion.

The key is decoded, the confirmation line is printed, and the bytes are written to the file, in this
order, each only after the one before has succeeded: a key that is not hexadecimal leaves no trace,
and a line that cannot be delivered leaves the file alone.

Where the line, the file and the log go is an `Outlet`, so that one definition serves a run on a
machine and a run on a description of one.
-/

namespace GroupKey

structure Outlet (m : Type → Type) where
  /-- Hands data to the standard output, all of it or an error. -/
  print : Bytes → m (Except IoError Unit)
  /-- Makes the standard output pass on what it holds. -/
  flush : m (Except IoError Unit)
  save : Path → Bytes → m (Except IoError Unit)
  record : Log.Record → m Unit

structure Conversion where
  bytes : Bytes
  path : Path
  deriving Repr

namespace Conversion

/-- Two conversions are equal when they wrote the same bytes to equal paths. -/
instance : BEq Conversion where
  beq a b := a.bytes == b.bytes && a.path == b.path

def spelled (conversion : Conversion) : String :=
  String.ofList (Spelled.record "Conversion"
    [Spelled.part "bytes"
      (Spelled.sequence (conversion.bytes.map fun b => (decimal b.toNat).toList)),
     Spelled.part "path" conversion.path.quoted])

end Conversion

variable {m : Type → Type} [Monad m]

/-- An attempt that may fail, with the failure that its error amounts to. -/
def attempt {α : Type} (failure : IoError → Failure) (action : m (Except IoError α)) :
    ExceptT Failure m α :=
  ExceptT.mk (Except.mapError failure <$> action)

theorem mapError_ok {ε δ α : Type} (failure : ε → δ) (a : α) :
    (Except.ok a : Except ε α).mapError failure = .ok a := rfl

/-- Of two attempts in a row the second is made only if the first succeeds. -/
theorem run_bind {ε σ α β : Type} (first : ExceptT ε (StateM σ) α)
    (second : α → ExceptT ε (StateM σ) β) (s : σ) :
    (first >>= second).run.run s =
      match first.run.run s with
      | (.ok a, s) => (second a).run.run s
      | (.error error, s) => (.error error, s) := by
  rw [ExceptT.run_bind, StateT.run_bind]
  rcases first.run.run s with ⟨_ | _, _⟩ <;> rfl

/-- Prints a line: its text, and then the end of the line. -/
def Outlet.printLine (outlet : Outlet m) (line : String) : ExceptT Failure m Unit := do
  attempt .stdout (outlet.print (Utf8.encode line))
  attempt .stdout (outlet.print (Utf8.encode "\n"))

def Outlet.writeKey (outlet : Outlet m) (path : Path) (bytes : Bytes) : ExceptT Failure m Unit :=
  attempt (.file path) (outlet.save path bytes)

/-- Decodes the key, confirms it and writes it. -/
def Config.convert (outlet : Outlet m) (config : Config) : ExceptT Failure m Conversion := do
  let bytes ← ExceptT.mk (pure (config.key.mapError .input))
  outlet.record (Log.decoded bytes.length config.output)
  outlet.printLine (confirmationLine config.groupId)
  attempt .stdout outlet.flush
  outlet.writeKey config.output bytes
  outlet.record (Log.wrote bytes.length config.output)
  return ⟨bytes, config.output⟩

/-- Converts the key that a lookup finds, into the default file. -/
def convertFound (lookup : String → m (Option Bytes)) (outlet : Outlet m) :
    ExceptT Failure m Conversion := do
  let config ← ExceptT.mk (Except.mapError .input <$> Config.ofLookup lookup)
  config.convert outlet

end GroupKey
