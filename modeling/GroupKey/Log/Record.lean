import GroupKey.Files.Path
import GroupKey.Text.Numeral

/-!
Log records: what a conversion says about its progress, and the lines that show it. The lines are
given without the time, which differs from run to run.
-/

namespace GroupKey.Log

/-- How much a record matters, most first. -/
inductive Level where
  | error
  | warn
  | info
  | debug
  | trace
  deriving DecidableEq, Repr

/-- The place of a level: the less a record matters, the higher. -/
def Level.rank : Level → Nat
  | .error => 1
  | .warn => 2
  | .info => 3
  | .debug => 4
  | .trace => 5

def Level.name : Level → String
  | .error => "ERROR"
  | .warn => "WARN"
  | .info => "INFO"
  | .debug => "DEBUG"
  | .trace => "TRACE"

structure Record where
  level : Level
  target : String
  text : String
  deriving DecidableEq, Repr

/-- The line that shows a record, but for the time, which has its place behind the opening bracket.
Names of levels are filled up to five columns. -/
def Record.line (record : Record) : String :=
  "[" ++ String.ofList (record.level.name.toList.rightpad 5 ' ') ++ " " ++ record.target ++ "] "
    ++ record.text

def conversionTarget : String := "derhex2bin_lib"

def decoded (count : Nat) (path : Path) : Record where
  level := .debug
  target := conversionTarget
  text := "decoded " ++ decimal count ++ " bytes, writing to " ++ path.shown

def wrote (count : Nat) (path : Path) : Record where
  level := .info
  target := conversionTarget
  text := "wrote " ++ decimal count ++ " bytes to " ++ path.shown

end GroupKey.Log
