import GroupKey.Command.Message
import GroupKey.Conversion
import GroupKey.Log.Filter

/-!
A run of the command.

The command line is looked at first; only if it asks for a conversion are the variables read. What
a conversion logs and how it fails is told on the error stream, and the exit status tells how the
run went.
-/

namespace GroupKey.Command

/-- What a run of the command can do on its host. -/
structure Host (m : Type → Type) where
  value? : String → m (Option Bytes)
  print : Bytes → m (Except IoError Unit)
  flush : m (Except IoError Unit)
  save : Path → Bytes → m (Except IoError Unit)
  complain : String → m Unit

inductive Outcome where
  /-- The key was converted, or the text that was asked for was printed. -/
  | success
  /-- There was no key, or it could not be delivered. -/
  | failure
  | misuse
  deriving DecidableEq, Repr

def Outcome.status : Outcome → Nat
  | .success => 0
  | .failure => 1
  | .misuse => 2

variable {m : Type → Type} [Monad m]

namespace Host

def complainLine (host : Host m) (line : String) : m Unit := host.complain (line ++ "\n")

/-- Where a conversion sends what it produces when it is part of a run: log records go to the error
stream if the filter lets them through. -/
def outlet (host : Host m) (filter : Log.Filter) : Outlet m where
  print := host.print
  flush := host.flush
  save := host.save
  record record := if filter.shows record then host.complainLine record.line else pure ()

def conclude (host : Host m) : Except Failure Conversion → m Outcome
  | .ok _ => return .success
  | .error failure => do
    failure.report.forM host.complainLine
    return .failure

/-- Converts the key that the variables hold. What is wrong with the specification of the log is
told first. -/
def convert (host : Host m) : m Outcome := do
  let specification := Log.Specification.ofValue (← host.value? Log.specificationVariable)
  (specification.complaints.map Log.Complaint.warning).forM host.complainLine
  let converted ← (convertFound host.value? (host.outlet specification.filter)).run
  host.conclude converted

/-- Does what the arguments ask for. Whether a text could be printed makes no difference to the
outcome. -/
def run (host : Host m) (arguments : List Bytes) : m Outcome :=
  match Request.ofArguments arguments with
  | .convert => host.convert
  | .tell flag => do
    let _ ← host.print (Utf8.encode flag.text)
    let _ ← host.flush
    return .success
  | .refuse misuse => do
    host.complain misuse.text
    return .misuse

end Host

end GroupKey.Command
