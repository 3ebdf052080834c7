import GroupKey.Environment
import Mathlib.Data.List.Nodup

/-!
# Settings made in turn

Of settings with the same name the last one counts, while a list of variables is looked through
from the front. Where settings of one name agree the two are the same.

* `lookup_of_filter`: entries with other names make no difference;
* `lookup_putAll`, `value?_setAll`: what settings made in turn leave behind;
* `lookup_reverse`: where the entries of a name agree, it makes no difference from which end they
  are looked through;
* `value?_ofSettings_of_distinct`: with distinct names what is left behind is what stands in the
  list.
-/

namespace GroupKey.Environment

section

variable {Name : Type} [BEq Name]

/-- An entry set among others: whatever stood under its name is gone. -/
def put (entries : List (Name × Bytes)) (entry : Name × Bytes) : List (Name × Bytes) :=
  entry :: entries.filter fun other => other.1 != entry.1

def putAll (entries settings : List (Name × Bytes)) : List (Name × Bytes) := settings.foldl put entries

theorem mem_put {entries : List (Name × Bytes)} {setting entry : Name × Bytes}
    (listed : entry ∈ put entries setting) : entry = setting ∨ entry ∈ entries :=
  (List.mem_cons.mp listed).imp_right fun kept => (List.mem_filter.mp kept).1

theorem mem_putAll {entries settings : List (Name × Bytes)} {entry : Name × Bytes}
    (listed : entry ∈ putAll entries settings) : entry ∈ entries ∨ entry ∈ settings := by
  induction settings generalizing entries with
  | nil => exact .inl listed
  | cons setting settings ih =>
    rcases ih listed with before | later
    · rcases mem_put before with rfl | kept
      · exact .inr List.mem_cons_self
      · exact .inl kept
    · exact .inr (List.mem_cons_of_mem setting later)

variable [LawfulBEq Name]

theorem lookup_of_filter {entries entries' : List (Name × Bytes)} {name : Name}
    (same : entries.filter (fun entry => entry.1 == name) =
      entries'.filter (fun entry => entry.1 == name)) :
    entries.lookup name = entries'.lookup name := by
  have kept : (name == name) = true := beq_self_eq_true name
  rw [← lookup_filter (p := fun entry => entry.1 == name) (fun _ => kept) entries, same,
    lookup_filter fun _ => kept]

theorem lookup_put (entries : List (Name × Bytes)) (setting : Name × Bytes) (name : Name) :
    (put entries setting).lookup name = ([setting].lookup name).or (entries.lookup name) := by
  obtain ⟨found, value⟩ := setting
  by_cases same : name = found
  · subst same
    rw [put, List.lookup_cons_self, List.lookup_cons_self, Option.some_or]
  · have passed : (name == found) = false := beq_eq_false_iff_ne.mpr same
    have kept : (name != found) = true := bne_iff_ne.mpr same
    rw [put, List.lookup_cons, List.lookup_cons, passed]
    exact lookup_filter (fun _ => kept) entries

/-- **What settings made in turn leave behind** is found by looking through them from the back, and
then through what was there before. -/
theorem lookup_putAll (entries settings : List (Name × Bytes)) (name : Name) :
    (putAll entries settings).lookup name =
      (settings.reverse.lookup name).or (entries.lookup name) := by
  induction settings generalizing entries with
  | nil => rfl
  | cons setting settings ih =>
    have made : putAll entries (setting :: settings) = putAll (put entries setting) settings := rfl
    rw [made, ih, lookup_put, ← Option.or_assoc, List.reverse_cons, List.lookup_append]

def Agree (name : Name) (entries : List (Name × Bytes)) : Prop :=
  ∀ v w, (name, v) ∈ entries → (name, w) ∈ entries → v = w

variable {name : Name} {entries : List (Name × Bytes)}

theorem mem_of_lookup {value : Bytes} (found : entries.lookup name = some value) :
    (name, value) ∈ entries := by
  obtain ⟨before, after, split, _⟩ := List.lookup_eq_some_iff.mp found
  rw [split]
  exact List.mem_append_right before List.mem_cons_self

/-- **Where the entries of a name agree**, it makes no difference from which end they are looked
through. -/
theorem lookup_reverse (agree : Agree name entries) :
    entries.reverse.lookup name = entries.lookup name := by
  cases found : entries.lookup name with
  | none =>
    have absent := List.lookup_eq_none_iff.mp found
    exact List.lookup_eq_none_iff.mpr fun entry listed => absent entry (List.mem_reverse.mp listed)
  | some v =>
    have listed := mem_of_lookup found
    cases found' : entries.reverse.lookup name with
    | none =>
      have passed := List.lookup_eq_none_iff.mp found' _ (List.mem_reverse.mpr listed)
      exact absurd rfl (bne_iff_ne.mp passed)
    | some w => rw [agree v w listed (List.mem_reverse.mp (mem_of_lookup found'))]

end

def setAll (env : Environment) (settings : List (String × Bytes)) : Environment :=
  settings.foldl (fun env setting => env.set setting.1 setting.2) env

theorem value?_setAll (env : Environment) (settings : List (String × Bytes)) (name : String) :
    (env.setAll settings).value? name = (value? name settings.reverse).or (env.value? name) :=
  lookup_putAll env settings name

theorem value?_ofSettings_of_distinct {settings : List (String × Bytes)}
    (distinct : (settings.map Prod.fst).Nodup) (name : String) :
    (ofSettings settings).value? name = value? name settings := by
  have agree : Agree name settings := fun v w listed listed' =>
    congrArg Prod.snd (List.inj_on_of_nodup_map distinct listed listed' rfl)
  have left : (ofSettings settings).value? name = _ := value?_setAll [] settings name
  rw [left]
  exact Option.or_none.trans (lookup_reverse agree)

end GroupKey.Environment
