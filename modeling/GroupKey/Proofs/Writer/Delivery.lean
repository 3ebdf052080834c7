import GroupKey.Writer

/-!
# What a writer takes

A writer that is offered data again and again takes it from the front until it has all of it or
gives up. How it slices the data and how often it asks to be called again is not seen afterwards:

* `writeAll_eq`: which part of the data is taken, and how that ends;
* `writeAll_append`: data written in two parts is written as one;
* `HasRoom`: when all of the data is taken.
-/

namespace GroupKey.Writer

/-- How many of so many bytes the writer takes before it gives up. -/
def capacity (w : Writer) (n : Nat) : Nat := if w.chunk = some 0 then 0 else atMost w.room n

/-- The writer takes so many bytes: it takes some in each call, and there is no limit below. -/
structure HasRoom (w : Writer) (n : Nat) : Prop where
  chunk : w.chunk ≠ some 0
  room : ∀ limit, w.room = some limit → n ≤ limit

def settled (w : Writer) : Writer := { w with interrupts := 0 }

def stopError (w : Writer) : IoError :=
  match w.whenFull with
  | .refuse error => error
  | .takeNothing => .tookNothing

def ending (w : Writer) (n : Nat) : Except IoError Unit :=
  if w.capacity n = n then .ok () else .error w.stopError

theorem atMost_le (limit : Option Nat) (n : Nat) : atMost limit n ≤ n := by
  cases limit with
  | none => exact Nat.le_refl n
  | some most => exact Nat.min_le_right most n

theorem share_le (w : Writer) (n : Nat) : w.share n ≤ n :=
  Nat.le_trans (atMost_le _ _) (atMost_le _ _)

theorem capacity_le (w : Writer) (n : Nat) : w.capacity n ≤ n := by
  unfold capacity
  split
  · exact Nat.zero_le n
  · exact atMost_le w.room n

theorem capacity_eq_iff (w : Writer) {n : Nat} (positive : 0 < n) :
    w.capacity n = n ↔ w.HasRoom n := by
  unfold capacity
  by_cases stuck : w.chunk = some 0
  · simp only [stuck, if_true]
    exact iff_of_false (by omega) (fun h => h.chunk stuck)
  · simp only [stuck, if_false]
    cases limit : w.room with
    | none => exact iff_of_true rfl ⟨stuck, by simp [limit]⟩
    | some most =>
      constructor
      · intro fits
        refine ⟨stuck, fun other same => ?_⟩
        rw [limit] at same
        cases same
        simp only [atMost] at fits
        omega
      · intro h
        have := h.room most limit
        simp only [atMost]
        omega

theorem ending_congr {v w : Writer} {m n : Nat} (fits : v.capacity m = m ↔ w.capacity n = n)
    (same : v.stopError = w.stopError) : v.ending m = w.ending n := by
  unfold ending
  by_cases h : v.capacity m = m
  · rw [if_pos h, if_pos (fits.mp h)]
  · rw [if_neg h, if_neg (fun h' => h (fits.mpr h')), same]

theorem ending_of_fits {w : Writer} {n : Nat} (h : w.capacity n = n) : w.ending n = .ok () :=
  if_pos h

theorem ending_of_short {w : Writer} {n : Nat} (h : w.capacity n ≠ n) :
    w.ending n = .error w.stopError := if_neg h

/-! ## One call -/

theorem writeAll_of_write (w : Writer) {data : Bytes} (h : data ≠ []) :
    w.writeAll data =
      match w.write data with
      | (.interrupted, after) => after.writeAll data
      | (.failed error, after) => (.error error, after)
      | (.took 0, after) => (.error .tookNothing, after)
      | (.took (more + 1), after) => after.writeAll (data.drop (more + 1)) := by
  cases data with
  | nil => exact absurd rfl h
  | cons first rest =>
    rw [writeAll]
    split <;> rename_i answer <;> simp only [answer, List.drop_succ_cons]

theorem writeAll_interrupted {w : Writer} {more : Nat} {data : Bytes} (h : data ≠ [])
    (hi : w.interrupts = more + 1) :
    w.writeAll data = { w with interrupts := more }.writeAll data := by
  have answer : w.write data = (.interrupted, { w with interrupts := more }) := by
    simp [write, hi]
  rw [writeAll_of_write w h, answer]

theorem writeAll_stopped {w : Writer} {data : Bytes} (h : data ≠ []) (hi : w.interrupts = 0)
    (none_taken : w.share data.length = 0) : w.writeAll data = (.error w.stopError, w) := by
  have answer : w.write data = (.ofFull w.whenFull, w) := by
    simp only [write, hi]
    rw [if_pos ⟨none_taken, h⟩]
  rw [writeAll_of_write w h, answer, stopError]
  cases w.whenFull <;> rfl

theorem writeAll_took {w : Writer} {data : Bytes} {more : Nat} (hi : w.interrupts = 0)
    (some_taken : w.share data.length = more + 1) :
    w.writeAll data = (w.take (data.take (more + 1))).writeAll (data.drop (more + 1)) := by
  have bound := w.share_le data.length
  have h : data ≠ [] := List.length_pos_iff.mp (by omega)
  have answer : w.write data = (.took (more + 1), w.take (data.take (more + 1))) := by
    simp only [write, hi]
    rw [if_neg (by omega), some_taken]
  rw [writeAll_of_write w h, answer]

/-! ## All calls -/

theorem take_take (w : Writer) (a b : Bytes) : (w.take a).take b = w.take (a ++ b) := by
  cases w with
  | mk room =>
    cases room <;> simp [take, Nat.sub_sub]

theorem take_nil (w : Writer) : w.take [] = w := by
  cases w with
  | mk room =>
    cases room <;> simp [take]

theorem capacity_of_chunk {w : Writer} (n : Nat) (h : w.chunk ≠ some 0) :
    w.capacity n = atMost w.room n := if_neg h

theorem capacity_of_stuck {w : Writer} (n : Nat) (h : w.chunk = some 0) : w.capacity n = 0 :=
  if_pos h

/-- A call that takes nothing of some data comes when nothing more will be taken. -/
theorem capacity_of_share_eq_zero {w : Writer} {n : Nat} (h : w.share n = 0) :
    w.capacity n = 0 := by
  by_cases stuck : w.chunk = some 0
  · exact capacity_of_stuck n stuck
  · rw [capacity_of_chunk n stuck]
    unfold share at h
    cases chunk : w.chunk with
    | none => simpa [chunk, atMost] using h
    | some most =>
      have goes_on : most ≠ 0 := fun zero => stuck (zero ▸ chunk)
      rw [chunk] at h
      cases room : w.room <;> simp only [room, atMost] at h ⊢ <;> omega

theorem capacity_of_share {w : Writer} {data : Bytes} {n more : Nat} (length : data.length = n)
    (h : w.share n = more + 1) :
    w.capacity n = more + 1 + (w.take (data.take (more + 1))).capacity (n - (more + 1)) := by
  have bound := w.share_le n
  have taken : (data.take (more + 1)).length = more + 1 := by rw [List.length_take]; omega
  have goes_on : w.chunk ≠ some 0 := by
    intro stuck
    rw [share, stuck] at h
    cases room : w.room <;> simp [room, atMost] at h
  have left : (w.take (data.take (more + 1))).room = w.room.map (· - (more + 1)) := by
    rw [take, taken]
  rw [capacity_of_chunk n goes_on, capacity_of_chunk _ (show (w.take _).chunk ≠ _ from goes_on),
    left]
  cases room : w.room with
  | none => simp only [atMost, Option.map_none]; omega
  | some limit =>
    have offered := atMost_le w.chunk n
    rw [share, room] at h
    change min limit (atMost w.chunk n) = more + 1 at h
    simp only [atMost, Option.map_some]
    omega

theorem writeAll_of_no_interrupts {n : Nat} {w : Writer} {data : Bytes} (length : data.length = n)
    (h : data ≠ []) (hi : w.interrupts = 0) :
    w.writeAll data = (w.ending n, w.take (data.take (w.capacity n))) := by
  -- Every call that goes on takes something, so the rest of the data is shorter.
  induction n using Nat.strongRecOn generalizing w data with
  | ind n ih =>
    have positive := List.length_pos_iff.mpr h
    cases share : w.share n with
    | zero =>
      have stuck := capacity_of_share_eq_zero share
      rw [writeAll_stopped h hi (length ▸ share), ending_of_short (by omega), stuck, List.take_zero,
        take_nil]
    | succ more =>
      have bound := w.share_le n
      have rest_length : (data.drop (more + 1)).length = n - (more + 1) := by
        rw [List.length_drop, length]
      have whole := capacity_of_share length share
      rw [writeAll_took hi (length ▸ share)]
      by_cases last : data.drop (more + 1) = []
      · rw [last, List.length_nil] at rest_length
        rw [← rest_length, Nat.le_zero.mp (capacity_le _ 0)] at whole
        rw [last, writeAll, ending_of_fits (by omega), whole]
      · have goes_on := ih (n - (more + 1)) (by omega) rest_length last
          (show (w.take (data.take (more + 1))).interrupts = 0 from hi)
        have same : (w.take (data.take (more + 1))).ending (n - (more + 1)) = w.ending n :=
          ending_congr (by omega) rfl
        rw [goes_on, take_take, ← List.take_add, ← whole, same]

theorem writeAll_settled {w : Writer} {data : Bytes} (h : data ≠ []) :
    w.writeAll data = w.settled.writeAll data := by
  generalize hi : w.interrupts = more
  induction more generalizing w with
  | zero =>
    cases w
    cases hi
    rfl
  | succ more ih =>
    rw [writeAll_interrupted h hi]
    exact ih rfl

/-- **What a writer takes of data that it is offered again and again**: as much from the front as it
has room for. Slices and interruptions leave no trace. -/
theorem writeAll_eq (w : Writer) {data : Bytes} (h : data ≠ []) :
    w.writeAll data =
      (w.ending data.length, w.settled.take (data.take (w.capacity data.length))) := by
  rw [writeAll_settled h, writeAll_of_no_interrupts rfl h rfl]
  rfl

theorem capacity_take {w : Writer} {data : Bytes} (n : Nat) (h : data ≠ [])
    (fits : w.capacity data.length = data.length) :
    w.capacity (data.length + n) = data.length + (w.settled.take data).capacity n := by
  have positive := List.length_pos_iff.mpr h
  have goes_on : w.chunk ≠ some 0 := by
    intro stuck
    rw [capacity_of_stuck _ stuck] at fits
    omega
  have left : (w.settled.take data).room = w.room.map (· - data.length) := rfl
  rw [capacity_of_chunk _ goes_on] at fits ⊢
  rw [capacity_of_chunk n (show (w.settled.take data).chunk ≠ _ from goes_on), left]
  cases room : w.room with
  | none => rfl
  | some limit =>
    rw [room] at fits
    simp only [atMost, Option.map_some] at fits ⊢
    omega

theorem capacity_append_of_short {w : Writer} {m : Nat} (n : Nat) (h : w.capacity m ≠ m) :
    w.capacity (m + n) = w.capacity m := by
  by_cases stuck : w.chunk = some 0
  · rw [capacity_of_stuck _ stuck, capacity_of_stuck _ stuck]
  · rw [capacity_of_chunk _ stuck] at h ⊢
    rw [capacity_of_chunk _ stuck]
    cases room : w.room with
    | none => simp [room, atMost] at h
    | some limit =>
      rw [room] at h
      simp only [atMost] at h ⊢
      omega

/-- **Data written in two parts is written as one**: the second part is offered only if the first
is taken. -/
theorem writeAll_append (w : Writer) {a b : Bytes} (ha : a ≠ []) (hb : b ≠ []) :
    w.writeAll (a ++ b) =
      match w.writeAll a with
      | (.error error, after) => (.error error, after)
      | (.ok _, after) => after.writeAll b := by
  have positive := List.length_pos_iff.mpr hb
  rw [w.writeAll_eq ha, w.writeAll_eq (List.append_ne_nil_of_left_ne_nil ha b), List.length_append]
  by_cases fits : w.capacity a.length = a.length
  · have whole := capacity_take b.length ha fits
    rw [ending_of_fits fits, fits, List.take_length]
    show _ = (w.settled.take a).writeAll b
    have same : w.ending (a.length + b.length) = (w.settled.take a).ending b.length :=
      ending_congr (by omega) rfl
    rw [writeAll_eq _ hb, whole, List.take_length_add_append, ← take_take, same]
    rfl
  · have short := capacity_append_of_short b.length fits
    have less := w.capacity_le a.length
    rw [ending_of_short fits, ending_of_short (by omega), short, List.take_append_of_le_length less]

end GroupKey.Writer
