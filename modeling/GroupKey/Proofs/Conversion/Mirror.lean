import GroupKey.Conversion

/-!
# Conversions seen from elsewhere

What a conversion changes can be a part of a larger state. Where every single action looks alike on
both sides, so does a whole conversion.

* `Mirrors.bind`: actions that look alike make up runs that look alike;
* `convertFound_mirrors`: a conversion is made of nothing but the actions of its outlet and its
  lookup.
-/

namespace GroupKey

variable {σ τ α β : Type} {view : σ → τ}

/-- An action on one state looks like an action on another: it gives the same answer, and what is
seen of the one state afterwards is the other. -/
def Mirrors (view : σ → τ) (act : StateM σ α) (seen : StateM τ α) : Prop :=
  ∀ s, seen.run (view s) = Prod.map id view (act.run s)

structure Outlet.Reflects (view : σ → τ) (outlet : Outlet (StateM σ)) (seen : Outlet (StateM τ)) :
    Prop where
  print : ∀ data, Mirrors view (outlet.print data) (seen.print data)
  flush : Mirrors view outlet.flush seen.flush
  save : ∀ path content, Mirrors view (outlet.save path content) (seen.save path content)
  record : ∀ record, Mirrors view (outlet.record record) (seen.record record)

theorem Mirrors.bind {act : StateM σ α} {seen : StateM τ α} {next : α → StateM σ β}
    {next' : α → StateM τ β} (h : Mirrors view act seen)
    (rest : ∀ a, Mirrors view (next a) (next' a)) :
    Mirrors view (act >>= next) (seen >>= next') := by
  intro s
  rw [StateT.run_bind, StateT.run_bind, h s]
  exact rest (act.run s).1 (act.run s).2

theorem Mirrors.map {act : StateM σ α} {seen : StateM τ α} (h : Mirrors view act seen)
    (f : α → β) : Mirrors view (f <$> act) (f <$> seen) := by
  intro s
  rw [StateT.run_map, StateT.run_map, h s]
  rfl

theorem Mirrors.forM {act : α → StateM σ Unit} {seen : α → StateM τ Unit}
    (h : ∀ a, Mirrors view (act a) (seen a)) (list : List α) :
    Mirrors view (list.forM act) (list.forM seen) := by
  induction list with
  | nil => exact fun _ => rfl
  | cons a rest ih => exact (h a).bind fun _ => ih

/-- Of two attempts in a row, the second is made on both sides or on neither. -/
theorem Mirrors.bind_run {first : ExceptT Failure (StateM σ) α}
    {first' : ExceptT Failure (StateM τ) α} {next : α → ExceptT Failure (StateM σ) β}
    {next' : α → ExceptT Failure (StateM τ) β} (h : Mirrors view first.run first'.run)
    (rest : ∀ a, Mirrors view (next a).run (next' a).run) :
    Mirrors view (first >>= next).run (first' >>= next').run := by
  rw [ExceptT.run_bind, ExceptT.run_bind]
  refine h.bind fun result => ?_
  cases result with
  | ok a => exact rest a
  | error failure => exact fun _ => rfl

section

variable {outlet : Outlet (StateM σ)} {seen : Outlet (StateM τ)}

theorem Outlet.Reflects.printLine (h : outlet.Reflects view seen) (line : String) :
    Mirrors view (outlet.printLine line).run (seen.printLine line).run :=
  ((h.print (Utf8.encode line)).map _).bind_run fun _ => (h.print (Utf8.encode "\n")).map _

/-- **A conversion is made of nothing but the actions of its outlet.** -/
theorem Config.convert_mirrors (h : outlet.Reflects view seen) (config : Config) :
    Mirrors view (config.convert outlet).run (config.convert seen).run := by
  unfold Config.convert
  refine Mirrors.bind_run (fun _ => rfl) fun bytes => ?_
  refine Mirrors.bind_run ((h.record _).map _) fun _ => ?_
  refine Mirrors.bind_run (h.printLine _) fun _ => ?_
  refine Mirrors.bind_run (h.flush.map _) fun _ => ?_
  refine Mirrors.bind_run ((h.save _ _).map _) fun _ => ?_
  exact Mirrors.bind_run ((h.record _).map _) fun _ _ => rfl

/-- **A conversion of what a lookup finds** asks for nothing else. -/
theorem convertFound_mirrors (h : outlet.Reflects view seen)
    {lookup : String → StateM σ (Option Bytes)} {lookup' : String → StateM τ (Option Bytes)}
    (found : ∀ name, Mirrors view (lookup name) (lookup' name)) :
    Mirrors view (convertFound lookup outlet).run (convertFound lookup' seen).run := by
  unfold convertFound
  refine Mirrors.bind_run (((found keyVariable).bind fun _ _ => rfl).map _) fun config => ?_
  exact config.convert_mirrors h

end

end GroupKey
