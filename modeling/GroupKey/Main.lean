import GroupKey.Command.Run

/-!
The command on the machine it is started on.
-/

namespace GroupKey.Command.Live

def number? : IO.Error → Option UInt32
  | .noFileOrDirectory _ code _ => some code
  | .permissionDenied _ code _ => some code
  | .inappropriateType _ code _ => some code
  | .resourceExhausted _ code _ => some code
  | .resourceVanished code _ => some code
  | .invalidArgument _ code _ => some code
  | .alreadyExists _ code _ => some code
  | .noSuchThing _ code _ => some code
  | .otherError code _ => some code
  | _ => none

def ofException (error : IO.Error) : IoError :=
  match (number? error).bind fun code => Errno.ofNumber? code.toNat with
  | some errno => .system errno
  | none => .described .other (toString error)

def trying (action : IO Unit) : IO (Except IoError Unit) :=
  tryCatch (.ok <$> action) fun error => pure (.error (ofException error))

/-- The value of a variable, byte for byte. -/
def value? (name : String) : IO (Option Bytes) := do
  let block ← IO.FS.readBinFile "/proc/self/environ"
  return (Environment.ofBlock block.toList).value? name

def host : Host IO where
  value? := value?
  print data := trying do (← IO.getStdout).write ⟨data.toArray⟩
  flush := trying do (← IO.getStdout).flush
  save path content := trying (IO.FS.writeBinFile path.shown ⟨content.toArray⟩)
  complain text := do (← IO.getStderr).putStr text

end GroupKey.Command.Live

def main (arguments : List String) : IO UInt32 := do
  let outcome ← GroupKey.Command.Live.host.run (arguments.map GroupKey.Utf8.encode)
  return UInt32.ofNat outcome.status
