import GroupKey.Proofs.Files.Frame

/-!
# What writing a file changes

* `write_of_error`: nothing, unless it succeeds;
* `write_error_cases`: what can keep it from succeeding;
* `write_of_ok`: the place that the path leads to, and no other;
* `fill_eq_of_device`, `fill_eq_of_free`: what becomes of the content there;
* `write_answer_congr`: whether it succeeds depends on nothing of the content but its length;
* `Updated.sameFrame`, `Updated.wellFormed`: the frame of the tree stays, and so does its form.
-/

namespace GroupKey.FileSystem

/-- A tree after content was written to a place. A device keeps nothing of it; anywhere else the
content is now in a regular file, and nothing else has changed. -/
structure Updated (fs : FileSystem) (place : Location) (content : Bytes) (after : FileSystem) :
    Prop where
  device : ∀ kind, fs.node? place = some (.device kind) → after = fs
  file : (∀ kind, fs.node? place ≠ some (.device kind)) → after.node? place = some (.file content)
  elsewhere : ∀ other, other ≠ place → after.node? other = fs.node? other
  cwd : after.cwd = fs.cwd

theorem Writable.device_or_free {fs : FileSystem} {place : Location}
    (writable : fs.Writable place) :
    (∃ kind, fs.node? place = some (.device kind)) ∨ fs.IsFree place := by
  cases found : fs.node? place with
  | none => exact .inr (.inl found)
  | some node =>
    cases node with
    | directory => exact absurd found writable.directory
    | link target => exact absurd found (writable.link target)
    | file old => exact .inr (.inr ⟨old, found⟩)
    | device kind => exact .inl ⟨kind, rfl⟩

theorem IsFree.no_device {fs : FileSystem} {place : Location} (free : fs.IsFree place)
    (kind : Device) : fs.node? place ≠ some (.device kind) := by
  intro found
  rcases free with absent | ⟨old, present⟩
  · simp [absent] at found
  · simp [present] at found

theorem fill_of_ok {fs : FileSystem} {place : Location} {content : Bytes} (ne_root : place ≠ [])
    (h : (fs.fill place content).1 = .ok ()) :
    fs.Updated place content (fs.fill place content).2 := by
  unfold fill at h ⊢
  split at h
  · next found => exact ⟨fun _ _ => rfl, fun no => absurd found (no _), fun _ _ => rfl, rfl⟩
  · next found => exact ⟨fun _ _ => rfl, fun no => absurd found (no _), fun _ _ => rfl, rfl⟩
  · next not_null not_full =>
    refine ⟨fun kind found => ?_, fun _ => node?_put_self fs _ ne_root, fun other away => ?_, rfl⟩
    · cases kind with
      | null => exact absurd found not_null
      | full => exact absurd found not_full
    · exact node?_put_of_ne fs _ away.symm

theorem fill_of_error {fs : FileSystem} {place : Location} {content : Bytes} {error : IoError}
    (h : (fs.fill place content).1 = .error error) : (fs.fill place content).2 = fs := by
  unfold fill at h ⊢
  split at h
  · rfl
  · rfl
  · cases h

theorem fill_eq_of_device {fs : FileSystem} {place : Location} {content : Bytes} {kind : Device}
    (found : fs.node? place = some (.device kind)) : (fs.fill place content).2 = fs := by
  unfold fill
  rw [found]
  cases kind <;> rfl

theorem fill_eq_of_free {fs : FileSystem} {place : Location} {content : Bytes}
    (free : fs.IsFree place) :
    fs.fill place content = (.ok (), fs.put place (.file content)) := by
  unfold fill
  rcases free with absent | ⟨old, present⟩
  · rw [absent]
  · rw [present]

theorem fill_of_free {fs : FileSystem} {place : Location} {content : Bytes}
    (free : fs.IsFree place) : (fs.fill place content).1 = .ok () := by
  rw [fill_eq_of_free free]

theorem write_of_destination {fs : FileSystem} {p : Path} {place : Location} {content : Bytes}
    (leads : fs.destination p = .ok place) : fs.write p content = fs.fill place content := by
  rw [write, leads]

theorem write_of_error {fs : FileSystem} {p : Path} {content : Bytes} {error : IoError}
    (h : (fs.write p content).1 = .error error) : (fs.write p content).2 = fs := by
  unfold write at h ⊢
  cases found : fs.destination p with
  | error error' => rfl
  | ok place =>
    rw [found] at h
    exact fill_of_error h

/-- A path that leads nowhere is refused by the operating system, or for a zero byte in it. -/
theorem resolve_error_cases {fs : FileSystem} {p : Path} {cause : IoError}
    (h : fs.resolve p = .error cause) :
    cause = .zeroByteInPath ∨ ∃ errno, cause = .system errno := by
  unfold resolve at h
  split at h
  · cases h
    exact .inl rfl
  split at h
  · cases h
    exact .inr ⟨_, rfl⟩
  split at h
  · cases h
    exact .inr ⟨_, rfl⟩
  cases walked : fs.follow mostLinks (start fs.cwd p) p.walk with
  | error errno =>
    rw [walked] at h
    cases h
    exact .inr ⟨errno, rfl⟩
  | ok landing =>
    rw [walked] at h
    cases h

theorem fill_error_cases {fs : FileSystem} {place : Location} {content : Bytes} {cause : IoError}
    (h : (fs.fill place content).1 = .error cause) : cause = .system .noSpace := by
  unfold fill at h
  split at h
  · cases h
  · dsimp only at h
    split at h
    · cases h
    · cases h
      rfl
  · cases h

theorem write_error_cases {fs : FileSystem} {p : Path} {content : Bytes} {cause : IoError}
    (h : (fs.write p content).1 = .error cause) :
    cause = .zeroByteInPath ∨ ∃ errno, cause = .system errno := by
  unfold write at h
  split at h
  · next error refused =>
    cases h
    unfold destination at refused
    split at refused
    · next unresolved =>
      cases refused
      exact resolve_error_cases unresolved
    · cases refused
      exact .inr ⟨_, rfl⟩
    · cases refused
    · cases refused
  · exact .inr ⟨_, fill_error_cases h⟩

theorem write_of_ok {fs : FileSystem} {p : Path} {content : Bytes}
    (h : (fs.write p content).1 = .ok ()) :
    ∃ place, fs.destination p = .ok place ∧ fs.Updated place content (fs.write p content).2 := by
  unfold write at h ⊢
  cases found : fs.destination p with
  | error error =>
    rw [found] at h
    cases h
  | ok place =>
    rw [found] at h
    exact ⟨place, rfl, fill_of_ok (destination_writable found).ne_root h⟩

/-- A device may refuse content unless it is empty. -/
theorem fill_answer_congr (fs : FileSystem) (place : Location) {content other : Bytes}
    (length : content.length = other.length) :
    (fs.fill place content).1 = (fs.fill place other).1 := by
  have empty : content = [] ↔ other = [] := by
    rw [← List.length_eq_zero_iff, ← List.length_eq_zero_iff, length]
  unfold fill
  split
  · rfl
  · simp only [empty]
  · rfl

/-- Whether an attempt to write succeeds depends on nothing of the content but its length. -/
theorem write_answer_congr (fs : FileSystem) (p : Path) {content other : Bytes}
    (length : content.length = other.length) : (fs.write p content).1 = (fs.write p other).1 := by
  unfold write
  cases fs.destination p with
  | error error => rfl
  | ok place => exact fs.fill_answer_congr place length

theorem Updated.sameFrame {fs after : FileSystem} {place : Location} {content : Bytes}
    (updated : fs.Updated place content after) (writable : fs.Writable place) :
    fs.SameFrame after := by
  refine ⟨updated.cwd.symm, fun other => ?_⟩
  by_cases away : other = place
  · subst away
    cases found : fs.node? other with
    | none =>
      have filled := updated.file (by simp [found])
      simp [frame?, found, filled, Option.filter, Node.isFixed]
    | some node =>
      cases node with
      | directory => exact absurd found writable.directory
      | link target => exact absurd found (writable.link target)
      | device kind => rw [updated.device kind found]
      | file old =>
        have filled := updated.file (by simp [found])
        simp [frame?, found, filled, Option.filter, Node.isFixed]
  · rw [frame?, frame?, updated.elsewhere other away]

theorem Updated.wellFormed {fs after : FileSystem} {place : Location} {content : Bytes}
    (updated : fs.Updated place content after) (writable : fs.Writable place)
    (around : fs.node? place.tail = some .directory) (wf : fs.WellFormed) : after.WellFormed := by
  have frame := updated.sameFrame writable
  constructor
  · intro name dir node found
    by_cases away : name :: dir = place
    · subst away
      exact (frame.node_iff rfl).mp around
    · rw [updated.elsewhere _ away] at found
      exact (frame.node_iff rfl).mp (wf.around name dir node found)
  · rw [updated.cwd]
    exact (frame.node_iff rfl).mp wf.cwd

end GroupKey.FileSystem
