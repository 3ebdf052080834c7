import GroupKey.Proofs.Files.Landing

/-!
# The frame of a tree

The frame of a tree is what is in it besides regular files: directories, links and devices.

* `destination_stable`: where a path leads depends on the frame alone, so it stays the same while
  regular files appear and change.
-/

namespace GroupKey

def Node.isFixed : Node → Bool
  | .file _ => false
  | _ => true

namespace FileSystem

/-- What is at a place, regular files left out. -/
def frame? (fs : FileSystem) (place : Location) : Option Node :=
  (fs.node? place).filter Node.isFixed

/-- Trees that differ in their regular files at most. -/
structure SameFrame (fs other : FileSystem) : Prop where
  cwd : fs.cwd = other.cwd
  frame : ∀ place, fs.frame? place = other.frame? place

theorem SameFrame.refl (fs : FileSystem) : fs.SameFrame fs := ⟨rfl, fun _ => rfl⟩

theorem SameFrame.symm {fs other : FileSystem} (h : fs.SameFrame other) : other.SameFrame fs :=
  ⟨h.cwd.symm, fun place => (h.frame place).symm⟩

theorem SameFrame.trans {a b c : FileSystem} (h : a.SameFrame b) (h' : b.SameFrame c) :
    a.SameFrame c :=
  ⟨h.cwd.trans h'.cwd, fun place => (h.frame place).trans (h'.frame place)⟩

/-- Nothing but a regular file can be at the place. -/
def IsFree (fs : FileSystem) (place : Location) : Prop :=
  fs.node? place = none ∨ ∃ content, fs.node? place = some (.file content)

theorem frame?_eq_some_iff {fs : FileSystem} {place : Location} {node : Node} :
    fs.frame? place = some node ↔ fs.node? place = some node ∧ node.isFixed = true := by
  simp [frame?, Option.filter_eq_some_iff]

theorem frame?_eq_none_iff {fs : FileSystem} {place : Location} :
    fs.frame? place = none ↔ fs.IsFree place := by
  unfold frame? IsFree
  cases fs.node? place with
  | none => simp
  | some node => cases node <;> simp [Option.filter, Node.isFixed]

theorem SameFrame.isFree_iff {fs other : FileSystem} (h : fs.SameFrame other) {place : Location} :
    fs.IsFree place ↔ other.IsFree place := by
  rw [← frame?_eq_none_iff, ← frame?_eq_none_iff, h.frame place]

theorem SameFrame.node_iff {fs other : FileSystem} (h : fs.SameFrame other) {place : Location}
    {node : Node} (fixed : node.isFixed = true) :
    fs.node? place = some node ↔ other.node? place = some node := by
  have same := h.frame place
  constructor
  · intro found
    exact (frame?_eq_some_iff.mp (same ▸ frame?_eq_some_iff.mpr ⟨found, fixed⟩)).1
  · intro found
    exact (frame?_eq_some_iff.mp (same.symm ▸ frame?_eq_some_iff.mpr ⟨found, fixed⟩)).1

theorem SameFrame.cases {fs other : FileSystem} (h : fs.SameFrame other) (place : Location) :
    (fs.IsFree place ∧ other.IsFree place) ∨
    ∃ node, node.isFixed = true ∧ fs.node? place = some node ∧ other.node? place = some node := by
  have same := h.frame place
  cases frame : fs.frame? place with
  | none => exact .inl ⟨frame?_eq_none_iff.mp frame, frame?_eq_none_iff.mp (same ▸ frame)⟩
  | some node =>
    obtain ⟨found, fixed⟩ := frame?_eq_some_iff.mp frame
    obtain ⟨found', _⟩ := frame?_eq_some_iff.mp (same ▸ frame)
    exact .inr ⟨node, fixed, found, found'⟩

/-- Two ways of getting to the first link or to the end that differ at most in what is found at the
end, or in why there is no way. -/
inductive Alike : Except Errno Stage → Except Errno Stage → Prop
  | refused (errno errno' : Errno) : Alike (.error errno) (.error errno')
  | arrived {landing landing' : Landing} (same : landing.place? = landing'.place?) :
      Alike (.ok (.arrived landing)) (.ok (.arrived landing'))
  | link (dir : Location) (target : Path) (rest : List Walk.Step) :
      Alike (.ok (.link dir target rest)) (.ok (.link dir target rest))

theorem advance_alike {fs other : FileSystem} (h : fs.SameFrame other) (slash : Bool)
    (dir : Location) (steps : List Walk.Step) :
    Alike (fs.advance slash dir steps) (other.advance slash dir steps) := by
  induction steps generalizing dir with
  | nil => exact .arrived rfl
  | cons step rest ih =>
    cases step with
    | stay => exact ih dir
    | up => exact ih dir.tail
    | down name =>
      rw [advance, advance]
      split
      · exact .refused _ _
      split
      · exact .refused _ _
      rcases h.cases (name :: dir) with ⟨free, free'⟩ | ⟨node, fixed, found, found'⟩
      · rcases free with absent | ⟨content, present⟩ <;>
          rcases free' with absent' | ⟨content', present'⟩ <;> simp only [*] <;> split <;>
          first
            | exact .arrived rfl
            | exact .refused _ _
      · rw [found, found']
        cases node with
        | directory => exact ih (name :: dir)
        | file content => cases fixed
        | link target => exact .link dir target rest
        | device kind =>
          simp only
          split
          · exact .arrived rfl
          · exact .refused _ _

/-- The place to write to that a walk ends at, if it ends at one. -/
def spot? {ε : Type} (walked : Except ε Landing) : Option Location :=
  walked.toOption.bind Landing.place?

theorem spot?_mapError {ε δ : Type} (f : ε → δ) (walked : Except ε Landing) :
    spot? (walked.mapError f) = spot? walked := by
  cases walked <;> rfl

theorem follow_spot? {fs other : FileSystem} (h : fs.SameFrame other) (links : Nat) (dir : Location)
    (walk : Walk) : spot? (fs.follow links dir walk) = spot? (other.follow links dir walk) := by
  induction links generalizing dir walk with
  | zero =>
    rw [follow_zero, follow_zero]
    have alike := advance_alike h walk.slash dir walk.steps
    generalize fs.advance walk.slash dir walk.steps = one at alike ⊢
    generalize other.advance walk.slash dir walk.steps = two at alike ⊢
    cases alike with
    | refused => rfl
    | arrived same => exact same
    | link => rfl
  | succ links ih =>
    rw [follow_succ, follow_succ]
    have alike := advance_alike h walk.slash dir walk.steps
    generalize fs.advance walk.slash dir walk.steps = one at alike ⊢
    generalize other.advance walk.slash dir walk.steps = two at alike ⊢
    cases alike with
    | refused => rfl
    | arrived same => exact same
    | link dir' target rest => exact ih (start dir' target) (detour walk.slash target rest)

theorem destination_eq_ok_iff {fs : FileSystem} {p : Path} {place : Location} :
    fs.destination p = .ok place ↔ spot? (fs.resolve p) = some place := by
  unfold destination spot?
  cases fs.resolve p with
  | error error => simp [Except.toOption]
  | ok landing => cases landing <;> simp [Except.toOption, Landing.place?]

/-- **Where a path leads depends on the frame of the tree alone.** Regular files may appear and
change on its way or beside it. -/
theorem destination_stable {fs other : FileSystem} (h : fs.SameFrame other) {p : Path}
    {place : Location} : fs.destination p = .ok place ↔ other.destination p = .ok place := by
  have same : spot? (fs.resolve p) = spot? (other.resolve p) := by
    unfold resolve
    split
    · rfl
    split
    · rfl
    split
    · rfl
    rw [spot?_mapError, spot?_mapError, ← h.cwd]
    exact follow_spot? h mostLinks (start fs.cwd p) p.walk
  rw [destination_eq_ok_iff, destination_eq_ok_iff, same]

end FileSystem

end GroupKey
