import GroupKey.Proofs.Files.Change

/-!
# Writes after writes

A write changes no more than one regular file, and where paths lead does not depend on regular
files. So of two writes to the same place only the second can be told, and two writes to different
places can change places.

* `sameFrame_write`: no write changes the frame of the tree;
* `write_absorbs`: a write to a place makes up for any write to it before;
* `write_comm`: writes to different places commute.
-/

namespace GroupKey.FileSystem

variable {fs : FileSystem} {p q : Path} {place x y : Location} {b c : Bytes}

/-! ## Places -/

theorem put_put (fs : FileSystem) (place : Location) (node node' : Node) :
    (fs.put place node).put place node' = fs.put place node' := by
  unfold put
  congr 1
  apply Std.ExtTreeMap.ext_getElem?
  intro other
  simp only [Std.ExtTreeMap.getElem?_insert]
  split <;> rfl

theorem put_comm (fs : FileSystem) (away : x ≠ y) (node node' : Node) :
    (fs.put x node).put y node' = (fs.put y node').put x node := by
  unfold put
  congr 1
  apply Std.ExtTreeMap.ext_getElem?
  intro other
  simp only [Std.ExtTreeMap.getElem?_insert, Std.LawfulEqOrd.compare_eq_iff_eq]
  by_cases at_x : x = other
  · have not_y : y ≠ other := fun at_y => away (at_x.trans at_y.symm)
    simp [at_x, not_y]
  · simp [at_x]

/-! ## Content given to what is at a place -/

theorem fill_fill (writable : fs.Writable place) :
    (fs.fill place b).2.fill place c = fs.fill place c := by
  rcases writable.device_or_free with ⟨kind, found⟩ | free
  · rw [fill_eq_of_device found]
  · have filled : (fs.put place (.file b)).IsFree place :=
      .inr ⟨b, node?_put_self fs _ writable.ne_root⟩
    rw [fill_eq_of_free free, fill_eq_of_free filled, fill_eq_of_free free, put_put]

theorem node?_fill_of_ne (away : x ≠ y) : (fs.fill x b).2.node? y = fs.node? y := by
  unfold fill
  split
  · rfl
  · rfl
  · exact node?_put_of_ne fs _ away

theorem fill_answer_of_node {other : FileSystem} (same : other.node? place = fs.node? place) :
    (other.fill place c).1 = (fs.fill place c).1 := by
  unfold fill
  rw [same]
  split <;> rfl

theorem fill_comm (to_x : fs.Writable x) (to_y : fs.Writable y) (away : x ≠ y) :
    ((fs.fill x b).2.fill y c).2 = ((fs.fill y c).2.fill x b).2 := by
  rcases to_x.device_or_free with ⟨kind, found⟩ | free_x
  · have still : (fs.fill y c).2.node? x = some (.device kind) :=
      (node?_fill_of_ne away.symm).trans found
    rw [fill_eq_of_device found, fill_eq_of_device still]
  rcases to_y.device_or_free with ⟨kind, found⟩ | free_y
  · have still : (fs.fill x b).2.node? y = some (.device kind) :=
      (node?_fill_of_ne away).trans found
    rw [fill_eq_of_device found, fill_eq_of_device still]
  · have still_y : (fs.put x (.file b)).IsFree y := by
      rw [IsFree, node?_put_of_ne fs _ away]
      exact free_y
    have still_x : (fs.put y (.file c)).IsFree x := by
      rw [IsFree, node?_put_of_ne fs _ away.symm]
      exact free_x
    rw [fill_eq_of_free free_x, fill_eq_of_free free_y, fill_eq_of_free still_y,
      fill_eq_of_free still_x, put_comm fs away]

/-! ## Writes -/

theorem sameFrame_write (fs : FileSystem) (p : Path) (b : Bytes) :
    fs.SameFrame (fs.write p b).2 := by
  cases written : (fs.write p b).1 with
  | error error =>
    rw [write_of_error written]
    exact .refl fs
  | ok _ =>
    obtain ⟨place, leads, updated⟩ := write_of_ok written
    exact updated.sameFrame (destination_writable leads)

theorem destination_after_write (leads : fs.destination q = .ok place) :
    (fs.write p b).2.destination q = .ok place :=
  (destination_stable (sameFrame_write fs p b)).mp leads

/-- **A write to a place makes up for any write to it before**, by whatever path. -/
theorem write_absorbs (to_p : fs.destination p = .ok place) (to_q : fs.destination q = .ok place) :
    (fs.write p b).2.write q c = fs.write q c := by
  rw [write_of_destination (destination_after_write to_q), write_of_destination to_p,
    write_of_destination to_q, fill_fill (destination_writable to_p)]

/-- A path that is written again is left as if it had been written once, even if the first write
failed. -/
theorem write_again (fs : FileSystem) (p : Path) (b c : Bytes) :
    (fs.write p b).2.write p c = fs.write p c := by
  cases leads : fs.destination p with
  | error error =>
    have untouched : (fs.write p b).2 = fs := by rw [write, leads]
    rw [untouched]
  | ok place => exact write_absorbs leads leads

theorem write_answer_of_ne (to_p : fs.destination p = .ok x) (to_q : fs.destination q = .ok y)
    (away : x ≠ y) : ((fs.write p b).2.write q c).1 = (fs.write q c).1 := by
  rw [write_of_destination (destination_after_write to_q), write_of_destination to_p,
    write_of_destination to_q]
  exact fill_answer_of_node (node?_fill_of_ne away)

/-- **Writes to different places commute.** -/
theorem write_comm (to_p : fs.destination p = .ok x) (to_q : fs.destination q = .ok y)
    (away : x ≠ y) : ((fs.write p b).2.write q c).2 = ((fs.write q c).2.write p b).2 := by
  rw [write_of_destination (destination_after_write to_q),
    write_of_destination (destination_after_write to_p), write_of_destination to_p,
    write_of_destination to_q]
  exact fill_comm (destination_writable to_p) (destination_writable to_q) away

end GroupKey.FileSystem
