import GroupKey.Command.Run
import GroupKey.Files.Write
import GroupKey.Writer

/-!
Runs of the command on a machine that is described in full: its variables, its directory tree, and
what stands on its two output streams.
-/

namespace GroupKey.Command

/-- What a run of the command finds and leaves. -/
structure Machine where
  environment : Environment
  files : FileSystem
  out : Writer := {}
  err : String := ""

namespace Machine

def withOut {α : Type} (act : Writer → α × Writer) : StateM Machine α :=
  modifyGet fun s => ((act s.out).1, { s with out := (act s.out).2 })

def withFiles {α : Type} (act : FileSystem → α × FileSystem) : StateM Machine α :=
  modifyGet fun s => ((act s.files).1, { s with files := (act s.files).2 })

def host : Host (StateM Machine) where
  value? name := do return (← get).environment.value? name
  print data := withOut (·.writeAll data)
  flush := withOut Writer.flush
  save path content := withFiles (·.write path content)
  complain text := modify fun s => { s with err := s.err ++ text }

def run (machine : Machine) (arguments : List Bytes) : Outcome × Machine :=
  (host.run arguments).run machine

end Machine

end GroupKey.Command
