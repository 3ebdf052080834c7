import GroupKey.Proofs.Files.Change
import Mathlib.Data.List.Basic

/-!
# Where the content of files comes from

A list of writes, first to last, tells what a tree has become since a start.

* `Traced.write`: a tree that a list accounts for is, after one more write, accounted for by the
  list with that write added;
* `Traced.provenance`: what can be said then about everything in the tree.
-/

namespace GroupKey.FileSystem

/-- What was written last to a place, by any path that leads there in the tree at the start. -/
def lastTo (start : FileSystem) (place : Location) (writes : List (Path × Bytes)) : Option Bytes :=
  (writes.filter fun write => start.destination write.1 = .ok place).getLast?.map Prod.snd

/-- The writes account for the tree: its frame is that of the start, and where no fixed node is,
there is the content written last, or what was there at the start. -/
structure Traced (start : FileSystem) (writes : List (Path × Bytes)) (fs : FileSystem) : Prop where
  wellFormed : start.WellFormed → fs.WellFormed
  frame : start.SameFrame fs
  content : ∀ place, start.IsFree place →
    fs.node? place = ((start.lastTo place writes).map Node.file).or (start.node? place)

/-- What has become of a tree by writes alone. No directory, link or device has come or gone, and no
regular file has gone; a regular file that was not there at the start was written to, and each holds
what was written to it last, or what it held at the start if nothing was. -/
structure Provenance (start : FileSystem) (writes : List (Path × Bytes)) (fs : FileSystem) :
    Prop where
  wellFormed : start.WellFormed → fs.WellFormed
  cwd : fs.cwd = start.cwd
  directory : ∀ place, fs.node? place = some .directory ↔ start.node? place = some .directory
  link : ∀ place target,
    fs.node? place = some (.link target) ↔ start.node? place = some (.link target)
  device : ∀ place kind,
    fs.node? place = some (.device kind) ↔ start.node? place = some (.device kind)
  stays : ∀ place old, start.node? place = some (.file old) →
    ∃ content, fs.node? place = some (.file content)
  appears : ∀ place content, fs.node? place = some (.file content) → start.node? place = none →
    ∃ path bytes, (path, bytes) ∈ writes ∧ start.destination path = .ok place
  content : ∀ place content, fs.node? place = some (.file content) →
    start.lastTo place writes = some content ∨
    start.lastTo place writes = none ∧ start.node? place = some (.file content)

variable {start fs : FileSystem} {writes : List (Path × Bytes)}

theorem lastTo_append_of_eq {p : Path} {place : Location} (bytes : Bytes)
    (leads : start.destination p = .ok place) :
    start.lastTo place (writes ++ [(p, bytes)]) = some bytes := by
  simp [lastTo, List.filter_append, leads]

theorem lastTo_append_of_ne {p : Path} {place : Location} (bytes : Bytes)
    (leads : start.destination p ≠ .ok place) :
    start.lastTo place (writes ++ [(p, bytes)]) = start.lastTo place writes := by
  simp [lastTo, List.filter_append, leads]

theorem exists_write_of_lastTo {place : Location} {bytes : Bytes}
    (h : start.lastTo place writes = some bytes) :
    ∃ path, (path, bytes) ∈ writes ∧ start.destination path = .ok place := by
  obtain ⟨⟨path, bytes'⟩, last, rfl⟩ := Option.map_eq_some_iff.mp h
  have found := List.mem_filter.mp (List.mem_of_getLast? last)
  exact ⟨path, found.1, of_decide_eq_true found.2⟩

theorem Traced.refl (start : FileSystem) : Traced start [] start :=
  ⟨id, SameFrame.refl start, fun _ _ => rfl⟩

/-- One more write is accounted for by adding it to the list. The path leads where it led at the
start, because the frame is still the same. -/
theorem Traced.write (h : Traced start writes fs) {p : Path} {bytes : Bytes}
    (written : (fs.write p bytes).1 = .ok ()) :
    Traced start (writes ++ [(p, bytes)]) (fs.write p bytes).2 := by
  obtain ⟨place, leads, updated⟩ := write_of_ok written
  have led := (destination_stable h.frame).mpr leads
  have writable := destination_writable leads
  refine ⟨fun wf => ?_, h.frame.trans (updated.sameFrame writable), fun other free => ?_⟩
  · exact updated.wellFormed writable (destination_around (h.wellFormed wf) leads) (h.wellFormed wf)
  · by_cases here : other = place
    · subst here
      have no_device := (h.frame.isFree_iff.mp free).no_device
      rw [updated.file no_device, lastTo_append_of_eq bytes led]
      rfl
    · have elsewhere : start.destination p ≠ .ok other := by
        rw [led]
        exact fun same => here (Except.ok.inj same).symm
      rw [updated.elsewhere other here, h.content other free, lastTo_append_of_ne bytes elsewhere]

theorem Traced.provenance (h : Traced start writes fs) : Provenance start writes fs where
  wellFormed := h.wellFormed
  cwd := h.frame.cwd.symm
  directory place := (h.frame.node_iff rfl).symm
  link place target := (h.frame.node_iff rfl).symm
  device place kind := (h.frame.node_iff rfl).symm
  stays := by
    intro place old present
    rw [h.content place (.inr ⟨old, present⟩)]
    cases start.lastTo place writes with
    | none => exact ⟨old, present⟩
    | some bytes => exact ⟨bytes, rfl⟩
  appears := by
    intro place content present absent
    rw [h.content place (.inl absent), absent] at present
    cases last : start.lastTo place writes with
    | none => simp [last] at present
    | some bytes =>
      obtain ⟨path, listed, leads⟩ := exists_write_of_lastTo last
      exact ⟨path, bytes, listed, leads⟩
  content := by
    intro place content present
    have free := h.frame.isFree_iff.mpr (.inr ⟨content, present⟩)
    rw [h.content place free] at present
    cases last : start.lastTo place writes with
    | none => exact .inr ⟨rfl, by simpa [last] using present⟩
    | some bytes => exact .inl (by simpa [last] using present)

end GroupKey.FileSystem
