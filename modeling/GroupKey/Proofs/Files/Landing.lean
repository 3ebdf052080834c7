import GroupKey.Files.Write

/-!
# Where paths lead

* `destination_writable`: a path that can be opened for writing leads to a file, a device or a name
  that is free;
* `destination_around`: in a well-formed tree a directory is around that place.
-/

namespace GroupKey

def Landing.place? : Landing → Option Location
  | .directory _ => none
  | .occupied place => some place
  | .vacant place => some place

namespace FileSystem

structure Writable (fs : FileSystem) (place : Location) : Prop where
  directory : fs.node? place ≠ some .directory
  link : ∀ target, fs.node? place ≠ some (.link target)

theorem Writable.ne_root {fs : FileSystem} {place : Location} (h : fs.Writable place) :
    place ≠ [] := by
  rintro rfl
  exact h.directory fs.node?_root

theorem advance_writable {fs : FileSystem} {slash : Bool} {dir : Location} {steps : List Walk.Step}
    {landing : Landing} (h : fs.advance slash dir steps = .ok (.arrived landing)) {place : Location}
    (hp : landing.place? = some place) : fs.Writable place := by
  induction steps generalizing dir with
  | nil =>
    cases h
    cases hp
  | cons step rest ih =>
    cases step with
    | stay => exact ih h
    | up => exact ih h
    | down name =>
      rw [advance] at h
      split at h
      · cases h
      split at h
      · cases h
      split at h
      · next absent =>
        split at h
        · cases h
          cases hp
          exact ⟨by simp [absent], by simp [absent]⟩
        · cases h
      · exact ih h
      · cases h
      · next not_directory not_link found =>
        split at h
        · cases h
          cases hp
          exact ⟨by simpa [found] using not_directory, by simpa [found] using not_link⟩
        · cases h

/-! ## Following links -/

theorem follow_zero (fs : FileSystem) (dir : Location) (walk : Walk) :
    fs.follow 0 dir walk =
      match fs.advance walk.slash dir walk.steps with
      | .error errno => .error errno
      | .ok (.arrived landing) => .ok landing
      | .ok (.link _ _ _) => .error .linkLoop := by
  conv => lhs; unfold follow
  cases fs.advance walk.slash dir walk.steps with
  | error errno => rfl
  | ok stage => cases stage <;> rfl

theorem follow_succ (fs : FileSystem) (links : Nat) (dir : Location) (walk : Walk) :
    fs.follow (links + 1) dir walk =
      match fs.advance walk.slash dir walk.steps with
      | .error errno => .error errno
      | .ok (.arrived landing) => .ok landing
      | .ok (.link dir target rest) =>
        fs.follow links (start dir target) (detour walk.slash target rest) := by
  conv => lhs; unfold follow
  cases fs.advance walk.slash dir walk.steps with
  | error errno => rfl
  | ok stage => cases stage <;> rfl

theorem follow_cases {fs : FileSystem} {links : Nat} {dir : Location} {walk : Walk}
    {landing : Landing} (h : fs.follow links dir walk = .ok landing) :
    fs.advance walk.slash dir walk.steps = .ok (.arrived landing) ∨
    ∃ more dir' target rest, links = more + 1 ∧
      fs.advance walk.slash dir walk.steps = .ok (.link dir' target rest) ∧
      fs.follow more (start dir' target) (detour walk.slash target rest) = .ok landing := by
  cases links with
  | zero =>
    rw [follow_zero] at h
    cases found : fs.advance walk.slash dir walk.steps with
    | error errno => simp [found] at h
    | ok stage =>
      cases stage with
      | arrived landing' => simpa [found] using h
      | link dir' target rest => simp [found] at h
  | succ links =>
    rw [follow_succ] at h
    cases found : fs.advance walk.slash dir walk.steps with
    | error errno => simp [found] at h
    | ok stage =>
      cases stage with
      | arrived landing' => exact .inl (by simpa [found] using h)
      | link dir' target rest =>
        exact .inr ⟨links, dir', target, rest, rfl, rfl, by simpa [found] using h⟩

theorem follow_writable {fs : FileSystem} {links : Nat} {dir : Location} {walk : Walk}
    {landing : Landing} (h : fs.follow links dir walk = .ok landing) {place : Location}
    (hp : landing.place? = some place) : fs.Writable place := by
  induction links generalizing dir walk with
  | zero =>
    obtain arrived | ⟨_, _, _, _, more, _⟩ := follow_cases h
    · exact advance_writable arrived hp
    · cases more
  | succ links ih =>
    obtain arrived | ⟨_, _, _, _, more, _, goes_on⟩ := follow_cases h
    · exact advance_writable arrived hp
    · cases more
      exact ih goes_on

theorem follow_of_destination {fs : FileSystem} {p : Path} {place : Location}
    (h : fs.destination p = .ok place) :
    ∃ landing, fs.follow mostLinks (start fs.cwd p) p.walk = .ok landing ∧
      landing.place? = some place := by
  unfold destination resolve at h
  split at h
  · cases h
  · next resolved => cases h
  all_goals
    next resolved =>
    cases h
    split at resolved
    · cases resolved
    split at resolved
    · cases resolved
    split at resolved
    · cases resolved
    cases found : fs.follow mostLinks (start fs.cwd p) p.walk with
    | error errno =>
      rw [found] at resolved
      cases resolved
    | ok landing =>
      rw [found] at resolved
      cases resolved
      exact ⟨_, rfl, rfl⟩

theorem destination_writable {fs : FileSystem} {p : Path} {place : Location}
    (h : fs.destination p = .ok place) : fs.Writable place := by
  obtain ⟨landing, landed, at_place⟩ := follow_of_destination h
  exact follow_writable landed at_place

/-! ## What is around a landing -/

/-- A walk that is in a directory where it stops: around its landing, or at a link. -/
def Stage.Grounded (fs : FileSystem) : Stage → Prop
  | .arrived landing =>
    ∀ place, landing.place? = some place → fs.node? place.tail = some .directory
  | .link dir _ _ => fs.node? dir = some .directory

theorem WellFormed.above {fs : FileSystem} (wf : fs.WellFormed) {dir : Location}
    (h : fs.node? dir = some .directory) : fs.node? dir.tail = some .directory := by
  cases dir with
  | nil => exact h
  | cons name dir => exact wf.around name dir .directory h

theorem advance_grounded {fs : FileSystem} (wf : fs.WellFormed) {slash : Bool} {dir : Location}
    {steps : List Walk.Step} {stage : Stage} (hd : fs.node? dir = some .directory)
    (h : fs.advance slash dir steps = .ok stage) : stage.Grounded fs := by
  induction steps generalizing dir with
  | nil =>
    cases h
    intro place hp
    cases hp
  | cons step rest ih =>
    cases step with
    | stay => exact ih hd h
    | up => exact ih (wf.above hd) h
    | down name =>
      rw [advance] at h
      split at h
      · cases h
      split at h
      · cases h
      split at h
      · split at h
        · cases h
          intro place hp
          cases hp
          exact hd
        · cases h
      · next found => exact ih found h
      · cases h
        exact hd
      · split at h
        · cases h
          intro place hp
          cases hp
          exact hd
        · cases h

theorem start_directory {fs : FileSystem} {dir : Location} (hd : fs.node? dir = some .directory)
    (p : Path) : fs.node? (start dir p) = some .directory := by
  unfold start
  split
  · exact fs.node?_root
  · exact hd

theorem follow_grounded {fs : FileSystem} (wf : fs.WellFormed) {links : Nat} {dir : Location}
    {walk : Walk} {landing : Landing} (hd : fs.node? dir = some .directory)
    (h : fs.follow links dir walk = .ok landing) : (Stage.arrived landing).Grounded fs := by
  induction links generalizing dir walk with
  | zero =>
    obtain arrived | ⟨_, _, _, _, more, _⟩ := follow_cases h
    · exact advance_grounded wf hd arrived
    · cases more
  | succ links ih =>
    obtain arrived | ⟨_, dir', target, _, more, met, goes_on⟩ := follow_cases h
    · exact advance_grounded wf hd arrived
    · cases more
      exact ih (start_directory (advance_grounded wf hd met) target) goes_on

theorem destination_around {fs : FileSystem} (wf : fs.WellFormed) {p : Path} {place : Location}
    (h : fs.destination p = .ok place) : fs.node? place.tail = some .directory := by
  obtain ⟨landing, landed, at_place⟩ := follow_of_destination h
  exact follow_grounded wf (start_directory wf.cwd p) landed place at_place

end FileSystem

end GroupKey
