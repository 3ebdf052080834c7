import GroupKey.Text.Utf8

/-!
Variables and their values.

A list of variables may name one more than once. Looking a name up answers with the first value;
setting it makes the new value the only one.
-/

namespace GroupKey

/-- Variables with their values, in the order in which they are looked through. -/
abbrev Environment := List (String × Bytes)

namespace Environment

/-- The value of the first variable with the name. -/
def value? (name : String) (env : Environment) : Option Bytes := env.lookup name

/-- The environment with a variable set: whatever value it had is gone. -/
def set (env : Environment) (name : String) (value : Bytes) : Environment :=
  (name, value) :: env.filter (fun entry => entry.1 != name)

theorem value?_set_self (env : Environment) (name : String) (value : Bytes) :
    (env.set name value).value? name = some value := by
  simp [value?, set]

/-- **Entries with other names make no difference**, wherever they stand. -/
theorem lookup_filter {Name : Type} [BEq Name] [LawfulBEq Name] {p : Name × Bytes → Bool}
    {name : Name} (kept : ∀ value, p (name, value) = true) (entries : List (Name × Bytes)) :
    (entries.filter p).lookup name = entries.lookup name := by
  induction entries with
  | nil => rfl
  | cons entry entries ih =>
    obtain ⟨other, value⟩ := entry
    by_cases same : name = other
    · subst same
      rw [List.filter_cons_of_pos (kept value), List.lookup_cons_self, List.lookup_cons_self]
    · have passed : (name == other) = false := beq_eq_false_iff_ne.mpr same
      cases found : p (other, value) with
      | true =>
        rw [List.filter_cons_of_pos found, List.lookup_cons, List.lookup_cons, passed]
        exact ih
      | false =>
        rw [List.filter_cons_of_neg (found ▸ Bool.false_ne_true), List.lookup_cons, passed]
        exact ih

theorem value?_set_of_ne (env : Environment) {name other : String} (value : Bytes)
    (h : other ≠ name) : (env.set name value).value? other = env.value? other := by
  have passed : (other == name) = false := beq_eq_false_iff_ne.mpr h
  have kept : (other != name) = true := bne_iff_ne.mpr h
  rw [value?, set, List.lookup_cons, passed]
  exact lookup_filter (fun _ => kept) env

/-- The environment that settings leave behind when they are made in turn, from one with no
variables. -/
def ofSettings (settings : List (String × Bytes)) : Environment :=
  settings.foldl (fun env setting => env.set setting.1 setting.2) []

/-- The variable that a block of bytes describes: its name, an equals sign and its value. -/
def ofEntry (entry : Bytes) : Option (String × Bytes) :=
  match entry.span (· != 0x3D) with
  | (name, _ :: value) => (Utf8.decode? name).map (·, value)
  | (_, []) => none

/-- The variables that a machine hands to a command: one after the other, each ended by a zero
byte. -/
def ofBlock (block : Bytes) : Environment := (block.splitOn 0).filterMap ofEntry

end Environment

end GroupKey
