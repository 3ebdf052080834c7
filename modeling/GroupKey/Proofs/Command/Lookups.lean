import GroupKey.Proofs.Command.Runs

/-!
# What a run looks up

A run is watched on a host that does what the machine does and notes the name of each variable that
it is asked for.

* `notes_run`: a run that is watched is the same run; one that converts asks for two variables, and
  any other for none.
-/

namespace GroupKey.Command

section

variable {σ τ : Type} {view : σ → τ}

structure Host.Reflects (view : σ → τ) (host : Host (StateM σ)) (seen : Host (StateM τ)) :
    Prop where
  print : ∀ data, Mirrors view (host.print data) (seen.print data)
  flush : Mirrors view host.flush seen.flush
  save : ∀ path content, Mirrors view (host.save path content) (seen.save path content)
  complain : ∀ text, Mirrors view (host.complain text) (seen.complain text)

variable {host : Host (StateM σ)} {seen : Host (StateM τ)}

theorem Host.Reflects.complainLines (h : host.Reflects view seen) (lines : List String) :
    Mirrors view (lines.forM host.complainLine) (lines.forM seen.complainLine) :=
  Mirrors.forM (fun line => h.complain (line ++ "\n")) lines

theorem Host.Reflects.outlet (h : host.Reflects view seen) (filter : Log.Filter) :
    (host.outlet filter).Reflects view (seen.outlet filter) where
  print := h.print
  flush := h.flush
  save := h.save
  record record := by
    unfold Host.outlet
    simp only
    split
    · exact h.complain _
    · exact fun _ => rfl

theorem Host.Reflects.conclude (h : host.Reflects view seen)
    (converted : Except Failure Conversion) :
    Mirrors view (host.conclude converted) (seen.conclude converted) := by
  cases converted with
  | ok conversion => exact fun _ => rfl
  | error failure => exact (h.complainLines failure.report).bind fun _ _ => rfl

end

def Request.lookups : Request → List String
  | .convert => [Log.specificationVariable, keyVariable]
  | .tell _ | .refuse _ => []

namespace Machine

/-- A machine, and the names that it has been asked for. -/
abbrev Watched := Machine × List String

variable {α β : Type} {names more : List String}

def unnoted (act : StateM Machine α) : StateM Watched α :=
  modifyGet fun s => ((act.run s.1).1, (act.run s.1).2, s.2)

def watchedHost : Host (StateM Watched) where
  value? name := do
    modify fun s => (s.1, s.2 ++ [name])
    unnoted (host.value? name)
  print data := unnoted (host.print data)
  flush := unnoted host.flush
  save path content := unnoted (host.save path content)
  complain text := unnoted (host.complain text)

def asked (machine : Machine) (arguments : List Bytes) : List String :=
  ((watchedHost.run arguments).run (machine, [])).2.2

/-- What is watched does what it does unwatched, and the names are noted. -/
def Notes (names : List String) (act : StateM Machine α) (watched : StateM Watched α) : Prop :=
  ∀ machine before,
    watched.run (machine, before) = Prod.map id (·, before ++ names) (act.run machine)

theorem notes_nil_iff {act : StateM Machine α} {watched : StateM Watched α} :
    Notes [] act watched ↔ ∀ before, Mirrors (·, before) act watched := by
  unfold Notes Mirrors
  simp only [List.append_nil]
  exact forall_comm

theorem Notes.bind {act : StateM Machine α} {watched : StateM Watched α}
    {next : α → StateM Machine β} {next' : α → StateM Watched β} (h : Notes names act watched)
    (rest : ∀ a, Notes more (next a) (next' a)) :
    Notes (names ++ more) (act >>= next) (watched >>= next') := by
  intro machine before
  rw [StateT.run_bind, StateT.run_bind, h machine before, ← List.append_assoc]
  exact rest (act.run machine).1 (act.run machine).2 (before ++ names)

theorem reflects_watched (before : List String) :
    host.Reflects (fun machine => (machine, before)) watchedHost where
  print _ _ := rfl
  flush _ := rfl
  save _ _ _ := rfl
  complain _ _ := rfl

theorem notes_value? (name : String) : Notes [name] (host.value? name) (watchedHost.value? name) :=
  fun _ _ => rfl

theorem notes_convertFound (filter : Log.Filter) :
    Notes [keyVariable] (convertFound host.value? (host.outlet filter)).run
      (convertFound watchedHost.value? (watchedHost.outlet filter)).run := by
  have looked : Notes [keyVariable]
      (Except.mapError Failure.input <$> Config.ofLookup host.value?)
      (Except.mapError Failure.input <$> Config.ofLookup watchedHost.value?) := fun _ _ => rfl
  unfold convertFound
  -- Whatever the lookup finds, nothing is asked for after it.
  rw [ExceptT.run_bind, ExceptT.run_bind, ← List.append_nil [keyVariable]]
  refine looked.bind fun found => notes_nil_iff.mpr fun before => ?_
  cases found with
  | ok config => exact config.convert_mirrors ((reflects_watched before).outlet filter)
  | error failure => exact fun _ => rfl

theorem notes_complainLines (lines : List String) :
    Notes [] (lines.forM host.complainLine) (lines.forM watchedHost.complainLine) :=
  notes_nil_iff.mpr fun before => (reflects_watched before).complainLines lines

theorem notes_conclude (converted : Except Failure Conversion) :
    Notes [] (host.conclude converted) (watchedHost.conclude converted) :=
  notes_nil_iff.mpr fun before => (reflects_watched before).conclude converted

theorem notes_convert :
    Notes [Log.specificationVariable, keyVariable] host.convert watchedHost.convert := by
  unfold Host.convert
  refine (notes_value? Log.specificationVariable).bind fun value => ?_
  refine (notes_complainLines _).bind fun _ => ?_
  exact (notes_convertFound _).bind notes_conclude

/-- **A run that is watched is the same run.** It has asked for what is looked up for its command
line, and for nothing else. -/
theorem notes_run (arguments : List Bytes) :
    Notes (Request.ofArguments arguments).lookups (host.run arguments)
      (watchedHost.run arguments) := by
  unfold Host.run
  cases Request.ofArguments arguments with
  | convert => exact notes_convert
  | tell flag => exact notes_nil_iff.mpr fun _ _ => rfl
  | refuse misuse => exact notes_nil_iff.mpr fun _ _ => rfl

theorem asked_eq (machine : Machine) (arguments : List Bytes) :
    machine.asked arguments = (Request.ofArguments arguments).lookups := by
  rw [asked, notes_run]
  rfl

end Machine

end GroupKey.Command
