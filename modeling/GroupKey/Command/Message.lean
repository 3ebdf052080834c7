import GroupKey.Command.Request
import GroupKey.Text.Visible

/-!
The texts of the command line: help, version, and what is said about mistakes.
-/

namespace GroupKey.Command

def commandVersion : String := "0.1.0"

def Flag.text : Flag → String
  | .help =>
    "Small CLI that decodes a hex-encoded DER key from GROUP_ID and writes it to key.der.\n" ++
    "\n" ++
    "Usage: derhex2bin\n" ++
    "\n" ++
    "Options:\n" ++
    "  -h, --help     Print help\n" ++
    "  -V, --version  Print version\n" ++
    "\n" ++
    "Environment:\n" ++
    "  GROUP_ID  hex-encoded DER key (required, even length)\n" ++
    "\n" ++
    "Output:\n" ++
    "  key.der   decoded bytes, written to the current directory\n"
  | .version => commandName ++ " " ++ commandVersion ++ "\n"

/-- The line that says how the command is used, with a flag that might have been meant. -/
def usage : Option Flag → String
  | none => "Usage: " ++ commandName
  | some flag => "Usage: " ++ commandName ++ " " ++ flag.long

namespace Misuse

/-- What is wrong, on a line. Of what the user wrote only as much is told as a terminal shows. -/
def fault : Misuse → String
  | .unexpected argument _ => "unexpected argument '" ++ Text.visible argument ++ "' found"
  | .unneededValue flag value =>
    "unexpected value '" ++ Text.visible value ++ "' for '" ++ flag.long ++
      "' found; no more were expected"

/-- The flag that the user is pointed to, if any. -/
def flag? : Misuse → Option Flag
  | .unexpected _ near => near
  | .unneededValue flag _ => some flag

/-- The paragraph that suggests a flag in place of an argument that resembles it. -/
def tip : Misuse → String
  | .unexpected _ (some flag) => "  tip: a similar argument exists: '" ++ flag.long ++ "'\n\n"
  | _ => ""

def text (misuse : Misuse) : String :=
  "error: " ++ misuse.fault ++ "\n\n" ++ misuse.tip ++ usage misuse.flag? ++ "\n\n" ++
    "For more information, try '--help'.\n"

end Misuse

end GroupKey.Command
