import GroupKey.Files.Path
import GroupKey.Hex.Basic
import GroupKey.IoError

/-!
Why a conversion failed.

Either the variable held no key, and then nothing has been printed or opened yet, or the
confirmation line or the file could not be written. A failure has a message of one line, and the
cause behind it, if there is one, has another.
-/

namespace GroupKey

/-- Why there is no key in a variable. -/
inductive InputError where
  | missing (name : String)
  | notUnicode (name : String)
  | notHex (name : String) (defect : Hex.Defect)
  deriving DecidableEq, Repr

/-- Why a conversion failed. -/
inductive Failure where
  | input (error : InputError)
  /-- The file at the path could not be written. -/
  | file (path : Path) (cause : IoError)
  /-- The confirmation line could not be printed. -/
  | stdout (cause : IoError)
  deriving DecidableEq, Repr

namespace InputError

def variableName : InputError → String
  | .missing name => name
  | .notUnicode name => name
  | .notHex name _ => name

/-- The error in words, without its cause. -/
def message : InputError → String
  | .missing name => "environment variable " ++ name ++ " is not set"
  | .notUnicode name => "environment variable " ++ name ++ " is not valid unicode"
  | .notHex name _ => "environment variable " ++ name ++ " is not valid hex"

/-- The causes of the error in words, nearest first. -/
def causes : InputError → List String
  | .missing _ => []
  | .notUnicode _ => []
  | .notHex _ defect => [defect.message]

def spelled (error : InputError) : String :=
  let name := Spelled.part "var" (Quoted.text error.variableName)
  String.ofList <| match error with
    | .missing _ => Spelled.record "MissingInput" [name]
    | .notUnicode _ => Spelled.record "NonUnicodeInput" [name]
    | .notHex _ defect =>
      Spelled.record "InvalidHex" [name, Spelled.part "source" defect.spelled]

end InputError

namespace Failure

/-- A coarse division of failures: bad input, or output that could not be delivered. -/
inductive Kind where
  | invalidInput
  | io
  deriving DecidableEq, Repr

def kind : Failure → Kind
  | .input _ => .invalidInput
  | .file _ _ => .io
  | .stdout _ => .io

def message : Failure → String
  | .input error => error.message
  | .file path _ => "failed to write " ++ path.shown
  | .stdout _ => "failed to write to stdout"

def causes : Failure → List String
  | .input error => error.causes
  | .file _ cause => [cause.message]
  | .stdout cause => [cause.message]

/-- The lines in which a run reports the failure: the message, then its causes. -/
def report (failure : Failure) : List String :=
  ("error: " ++ failure.message) :: failure.causes.map ("caused by: " ++ ·)

end Failure

end GroupKey
