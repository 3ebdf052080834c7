import GroupKey.Command.Machine
import GroupKey.Proofs.Conversion.Input
import GroupKey.Proofs.Conversion.Mirror

/-!
# Runs of the command

* `run_of_convert`: a run that converts is the conversion of what the variables hold, with the log
  and the failure told on the error stream;
* `run_of_other`: any other run leaves the tree alone.
-/

namespace GroupKey.Command

def Outcome.ofConverted : Except Failure Conversion → Outcome
  | .ok _ => .success
  | .error _ => .failure

def diagnosis : Except Failure Conversion → List String
  | .ok _ => []
  | .error failure => failure.report

namespace Machine

def told (machine : Machine) (lines : List String) : Machine :=
  { machine with err := machine.err ++ String.join (lines.map (· ++ "\n")) }

/-- What a conversion on the machine begins with. -/
def surroundings (machine : Machine) : Surroundings :=
  { files := machine.files, out := machine.out }

def shownLines (filter : Log.Filter) (log : List Log.Record) : List String :=
  (log.filter filter.shows).map Log.Record.line

/-- The machine when a conversion has got somewhere. -/
def seen (machine : Machine) (filter : Log.Filter) (s : Surroundings) : Machine :=
  { machine with files := s.files, out := s.out }.told (shownLines filter s.log)

def warnings (machine : Machine) : List String :=
  let specification := Log.Specification.ofValue (machine.environment.value? "RUST_LOG")
  specification.complaints.map Log.Complaint.warning

def filter (machine : Machine) : Log.Filter :=
  (Log.Specification.ofValue (machine.environment.value? "RUST_LOG")).filter

theorem told_nil (machine : Machine) : machine.told [] = machine := by
  rw [told, List.map_nil, String.join_nil, String.append_empty]

theorem told_append (machine : Machine) (lines more : List String) :
    machine.told (lines ++ more) = (machine.told lines).told more := by
  simp only [told, List.map_append, String.join_append, String.append_assoc]

theorem run_complainLine (machine : Machine) (line : String) :
    (host.complainLine line).run machine = ((), machine.told [line]) := by
  simp only [told, List.map_singleton, String.join_cons, String.join_nil, String.append_empty]
  rfl

theorem run_forM_complainLine (machine : Machine) (lines : List String) :
    (lines.forM host.complainLine).run machine = ((), machine.told lines) := by
  induction lines generalizing machine with
  | nil => rw [told_nil]; rfl
  | cons line rest ih =>
    have first : (host.complainLine line >>= fun _ => rest.forM host.complainLine).run machine =
        (rest.forM host.complainLine).run (machine.told [line]) := by
      rw [StateT.run_bind, run_complainLine]
      rfl
    exact first.trans ((ih _).trans (by rw [← told_append, List.singleton_append]))

theorem seen_record (machine : Machine) (filter : Log.Filter) (s : Surroundings)
    (record : Log.Record) :
    machine.seen filter { s with log := s.log ++ [record] } =
      (machine.seen filter s).told (shownLines filter [record]) := by
  rw [seen, shownLines, List.filter_append, List.map_append, told_append]
  rfl

theorem record_mirrors (machine : Machine) (filter : Log.Filter) (record : Log.Record) :
    Mirrors (machine.seen filter) (Surroundings.outlet.record record)
      ((host.outlet filter).record record) := by
  intro s
  have after := machine.seen_record filter s record
  by_cases shown : filter.shows record = true
  · have action : (host.outlet filter).record record = host.complainLine record.line :=
      if_pos shown
    have line : shownLines filter [record] = [record.line] := by simp [shownLines, shown]
    rw [line] at after
    rw [action, run_complainLine, ← after]
    rfl
  · have action : (host.outlet filter).record record = pure () := if_neg shown
    have no_line : shownLines filter [record] = [] := by simp [shownLines, shown]
    rw [no_line, told_nil] at after
    rw [action]
    exact Prod.ext rfl after.symm

theorem reflects (machine : Machine) (filter : Log.Filter) :
    Surroundings.outlet.Reflects (machine.seen filter) (host.outlet filter) where
  print _ _ := rfl
  flush _ := rfl
  save _ _ _ := rfl
  record := machine.record_mirrors filter

theorem seen_surroundings (machine : Machine) (filter : Log.Filter) :
    machine.seen filter machine.surroundings = machine := told_nil machine

/-- A conversion on the machine is one of what its variables hold, seen through a filter. -/
theorem run_convertFound (machine : Machine) (filter : Log.Filter) :
    (convertFound host.value? (host.outlet filter)).run.run machine =
      Prod.map id (machine.seen filter) (machine.surroundings.convertFrom machine.environment) := by
  have found : ∀ name, Mirrors (machine.seen filter)
      (pure (machine.environment.value? name)) (host.value? name) := fun _ _ => rfl
  have run := convertFound_mirrors (machine.reflects filter) found machine.surroundings
  rw [seen_surroundings] at run
  exact run

theorem run_conclude (machine : Machine) (converted : Except Failure Conversion) :
    (host.conclude converted).run machine =
      (Outcome.ofConverted converted, machine.told (diagnosis converted)) := by
  cases converted with
  | ok conversion =>
    rw [diagnosis, told_nil]
    rfl
  | error failure =>
    rw [Host.conclude, StateT.run_bind, run_forM_complainLine]
    rfl

/-- **A run that converts.** It tells what is wrong with the specification of the log, converts what
the variables hold, and tells how that failed if it did. -/
theorem run_of_convert (machine : Machine) {arguments : List Bytes}
    (h : Request.ofArguments arguments = .convert) :
    machine.run arguments =
      let warned := machine.told machine.warnings
      let converted := machine.surroundings.convertFrom machine.environment
      (.ofConverted converted.1,
        (warned.seen machine.filter converted.2).told (diagnosis converted.1)) := by
  have looked : (host.value? Log.specificationVariable).run machine =
      (machine.environment.value? "RUST_LOG", machine) := rfl
  unfold run Host.run
  simp only [h]
  rw [Host.convert, StateT.run_bind, looked]
  show StateT.run (_ >>= fun _ => _) machine = _
  rw [StateT.run_bind, run_forM_complainLine]
  show StateT.run (_ >>= fun _ => _) (machine.told machine.warnings) = _
  rw [StateT.run_bind, run_convertFound]
  exact run_conclude _ _

theorem outcome_of_convert (machine : Machine) {arguments : List Bytes}
    (h : Request.ofArguments arguments = .convert) :
    (machine.run arguments).1 =
      .ofConverted (machine.surroundings.convertFrom machine.environment).1 := by
  rw [machine.run_of_convert h]

theorem files_of_convert (machine : Machine) {arguments : List Bytes}
    (h : Request.ofArguments arguments = .convert) :
    (machine.run arguments).2.files =
      (machine.surroundings.convertFrom machine.environment).2.files := by
  rw [machine.run_of_convert h]
  rfl

theorem run_of_other (machine : Machine) {arguments : List Bytes}
    (h : Request.ofArguments arguments ≠ .convert) :
    (machine.run arguments).2.files = machine.files := by
  unfold run Host.run
  cases asked : Request.ofArguments arguments with
  | convert => exact absurd asked h
  | tell flag => rfl
  | refuse misuse => rfl

end Machine

end GroupKey.Command
