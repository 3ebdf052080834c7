import GroupKey.Proofs.Files.Route

/-!
# Paths with the same components

Components are what paths are compared by, and steps are what they are walked by. The two leave
different things out: a single dot is a step and, but for the front, no component. Where it matters
is at the end of a path, which then can only mean a directory.

* `resolve_of_components`: paths with the same components lead to the same place, or nowhere
  for the same reason, unless one of them can only mean a directory;
* `destination_of_asksDirectory`: a path that can only mean a directory cannot be opened for writing.
-/

namespace GroupKey

namespace Path

/-- The path ends in a slash or a single dot, and so can only mean a directory. -/
def AsksDirectory (p : Path) : Prop :=
  p.bytes.getLast? = some slash ∨ p.parts.getLast? = some dot

instance (p : Path) : Decidable p.AsksDirectory :=
  inferInstanceAs (Decidable (p.bytes.getLast? = some slash ∨ p.parts.getLast? = some dot))

def body (p : Path) : List Component := p.parts.filterMap Component.ofPart

/-! ## What the parts tell of the bytes -/

theorem mem_intercalate_iff {α : Type} {sep x : α} {parts : List (List α)} (other : x ≠ sep) :
    x ∈ [sep].intercalate parts ↔ ∃ part ∈ parts, x ∈ part := by
  induction parts with
  | nil => simp
  | cons part parts ih =>
    by_cases last : parts = []
    · simp [last]
    · rw [List.intercalate_cons_of_ne_nil last]
      simp [ih, other]

theorem mem_bytes_iff {p : Path} {b : UInt8} (other : b ≠ slash) :
    b ∈ p.bytes ↔ ∃ part ∈ p.parts, b ∈ part := by
  rw [parts, ← mem_intercalate_iff other, List.intercalate_splitOn]

theorem getLast?_intercalate {α : Type} {sep : α} {parts : List (List α)} (more : parts ≠ []) :
    ([sep].intercalate (parts ++ [[]])).getLast? = some sep := by
  induction parts with
  | nil => exact absurd rfl more
  | cons part parts ih =>
    rw [List.cons_append, List.intercalate_cons_of_ne_nil (by simp), List.getLast?_append]
    by_cases last : parts = []
    · simp [last]
    · simp [ih last]

/-- A path with an empty part at its end has a slash there, if it has anything. -/
theorem getLast?_of_empty_part {p : Path} (empty : p.parts.getLast? = some []) :
    p.bytes = [] ∨ p.bytes.getLast? = some slash := by
  have whole : [slash].intercalate p.parts = p.bytes := List.intercalate_splitOn slash
  obtain ⟨before, split⟩ := List.getLast?_eq_some_iff.mp empty
  rw [← whole, split]
  by_cases first : before = []
  · exact .inl (by simp [first])
  · exact .inr (getLast?_intercalate first)

/-- **What a path ends in that need not mean a directory**: nothing, or a part that is a component
and a step that goes somewhere. -/
theorem exists_last_part {p : Path} (open_end : ¬ p.AsksDirectory) :
    p.bytes = [] ∨ ∃ before last, p.parts = before ++ [last] ∧ last ≠ [] ∧ last ≠ dot := by
  by_cases empty : p.bytes = []
  · exact .inl empty
  · obtain ⟨before, last, split⟩ := (List.eq_nil_or_concat p.parts).resolve_left
      (List.splitOn_ne_nil _ _)
    rw [List.concat_eq_append] at split
    refine .inr ⟨before, last, split, ?_, ?_⟩
    · rintro rfl
      rcases getLast?_of_empty_part (p := p) (by simp [split]) with none_left | slash_last
      · exact empty none_left
      · exact open_end (.inl slash_last)
    · rintro rfl
      exact open_end (.inr (by simp [split]))

/-! ## Components and steps -/

def Component.step : Component → Walk.Step
  | .root => .stay
  | .current => .stay
  | .parent => .up
  | .name bytes => .down bytes

/-- What a path begins with that is a component at the front alone. -/
def front (p : Path) : List Component :=
  if p.isAbsolute then [.root] else if p.parts.head? = some dot then [.current] else []

theorem components_eq (p : Path) : p.components = p.front ++ p.body := by
  unfold components front body
  split
  · rfl
  · split <;> rfl

theorem body_kept {p : Path} {c : Component} (listed : c ∈ p.body) : c ≠ .root ∧ c ≠ .current := by
  obtain ⟨part, _, read⟩ := List.mem_filterMap.mp listed
  unfold Component.ofPart at read
  split at read
  · cases read
  · split at read <;> cases read <;> simp

theorem root_mem_components_iff {p : Path} : .root ∈ p.components ↔ p.isAbsolute = true := by
  have behind : .root ∉ p.body := fun listed => (body_kept listed).1 rfl
  rw [components_eq, List.mem_append, or_iff_left behind, front]
  split
  · next absolute => simp [absolute]
  · next relative => split <;> simp [relative]

theorem body_eq_filter (p : Path) :
    p.body = p.components.filter fun c => c ≠ .root ∧ c ≠ .current := by
  have none_left : p.front.filter (fun c => c ≠ .root ∧ c ≠ .current) = [] := by
    unfold front
    split
    · rfl
    · split <;> rfl
  have all_left : p.body.filter (fun c => c ≠ .root ∧ c ≠ .current) = p.body :=
    List.filter_eq_self.mpr fun c listed => decide_eq_true (body_kept listed)
  rw [components_eq, List.filter_append, none_left, all_left, List.nil_append]

end Path

/-! ## Steps that take the same course -/

namespace Walk

def moves (steps : List Step) : List Step := steps.filter (· ≠ .stay)

/-- Steps that differ in where they stay. None of them stays at its end where the other does not:
the last step tells whether a walk may end at a name. -/
inductive SameCourse : List Step → List Step → Prop
  | nil : SameCourse [] []
  | both (step : Step) {xs ys : List Step} (further : SameCourse xs ys) :
      SameCourse (step :: xs) (step :: ys)
  | left {xs ys : List Step} (more : xs ≠ []) (further : SameCourse xs ys) :
      SameCourse (.stay :: xs) ys
  | right {xs ys : List Step} (more : ys ≠ []) (further : SameCourse xs ys) :
      SameCourse xs (.stay :: ys)

theorem SameCourse.nil_iff {xs ys : List Step} (same : SameCourse xs ys) : xs = [] ↔ ys = [] := by
  induction same with
  | nil => rfl
  | both => simp
  | left more _ ih => simpa using fun none_left => more (ih.mpr none_left)
  | right more _ ih => simpa using fun none_left => more (ih.mp none_left)

theorem SameCourse.append_left {xs ys : List Step} (same : SameCourse xs ys) (first : List Step) :
    SameCourse (first ++ xs) (first ++ ys) := by
  induction first with
  | nil => exact same
  | cons step first ih => exact .both step ih

theorem eq_nil_of_moves {steps : List Step} (open_end : steps.getLast? ≠ some .stay)
    (none_left : moves steps = []) : steps = [] := by
  rcases List.eq_nil_or_concat steps with empty | ⟨before, last, split⟩
  · exact empty
  · rw [List.concat_eq_append] at split
    subst split
    have stays : last = .stay := by simpa [moves] using (List.append_eq_nil_iff.mp
      ((List.filter_append _ _).symm.trans none_left)).2
    exact absurd (by simp [stays]) open_end

theorem open_tail {step : Step} {rest : List Step}
    (open_end : (step :: rest).getLast? ≠ some .stay) : rest.getLast? ≠ some .stay := by
  intro stays
  exact open_end (by rw [List.getLast?_cons, stays]; rfl)

theorem ne_nil_of_open {rest : List Step} (open_end : (Step.stay :: rest).getLast? ≠ some .stay) :
    rest ≠ [] := by
  rintro rfl
  exact open_end rfl

/-- Steps with the same moves, neither of which stay at the end, take the same course. -/
theorem sameCourse_of_moves {xs ys : List Step} (open_xs : xs.getLast? ≠ some .stay)
    (open_ys : ys.getLast? ≠ some .stay) (same : moves xs = moves ys) : SameCourse xs ys := by
  induction xs generalizing ys with
  | nil =>
    rw [eq_nil_of_moves open_ys same.symm]
    exact .nil
  | cons step xs ih =>
    have open_rest := open_tail open_xs
    by_cases stays : step = .stay
    · subst stays
      exact .left (ne_nil_of_open open_xs) (ih open_rest open_ys (by simpa [moves] using same))
    · -- The other steps may stay any number of times before they make the same move.
      induction ys with
      | nil => simp [moves, stays] at same
      | cons step' ys ih' =>
        have open_rest' := open_tail open_ys
        by_cases stays' : step' = .stay
        · subst stays'
          exact .right (ne_nil_of_open open_ys) (ih' open_rest' (by simpa [moves] using same))
        · have both : step = step' ∧ moves xs = moves ys := by
            simpa [moves, stays, stays'] using same
          rw [both.1]
          exact .both step' (ih open_rest open_rest' both.2)

end Walk

namespace Path

theorem moves_walk (p : Path) : Walk.moves p.walk.steps = p.body.map Component.step := by
  unfold Walk.moves walk body
  rw [List.filter_filterMap, List.map_filterMap]
  congr 1
  funext part
  unfold Walk.Step.ofPart Component.ofPart
  by_cases empty : part = []
  · simp [empty]
  by_cases single : part = dot
  · simp [single]
  by_cases double : part = dotDot
  · subst double
    rfl
  · simp [empty, single, double, Component.step]

variable {p q : Path}

/-! ## What the components tell of the path -/

theorem isAbsolute_of_components (same : p.components = q.components) :
    p.isAbsolute = q.isAbsolute := by
  rw [Bool.eq_iff_iff, ← root_mem_components_iff, ← root_mem_components_iff, same]

theorem body_of_components (same : p.components = q.components) : p.body = q.body := by
  rw [body_eq_filter, body_eq_filter, same]

/-- A zero byte is in a name, for it is in no other part. -/
theorem zero_mem_iff : 0 ∈ p.bytes ↔ ∃ bytes, .name bytes ∈ p.body ∧ 0 ∈ bytes := by
  rw [mem_bytes_iff (by decide)]
  constructor
  · rintro ⟨part, listed, zero⟩
    have read : Component.ofPart part = some (.name part) := by
      unfold Component.ofPart
      rw [if_neg, if_neg]
      · rintro rfl
        exact absurd zero (by decide)
      · rintro (rfl | rfl)
        · cases zero
        · exact absurd zero (by decide)
    exact ⟨part, List.mem_filterMap.mpr ⟨part, listed, read⟩, zero⟩
  · rintro ⟨bytes, listed, zero⟩
    obtain ⟨part, among, read⟩ := List.mem_filterMap.mp listed
    unfold Component.ofPart at read
    split at read
    · cases read
    · split at read <;> cases read
      exact ⟨_, among, zero⟩

/-- An empty path has no components. Others may have none too, but they ask for a directory. -/
theorem bytes_eq_nil_iff (open_end : ¬ p.AsksDirectory) : p.bytes = [] ↔ p.body = [] := by
  constructor
  · intro empty
    simp [body, parts, empty, Component.ofPart]
  · intro none_left
    rcases exists_last_part open_end with empty | ⟨before, last, split, filled, moves⟩
    · exact empty
    · have read : Component.ofPart last ≠ none := by
        unfold Component.ofPart
        rw [if_neg (by simp [filled, moves])]
        split <;> simp
      have listed : last ∈ p.parts := by simp [split]
      exact absurd (List.filterMap_eq_nil_iff.mp none_left last listed) read

theorem slash_walk (open_end : ¬ p.AsksDirectory) : p.walk.slash = false :=
  decide_eq_false fun slash_last => open_end (.inl slash_last)

theorem getLast?_walk (open_end : ¬ p.AsksDirectory) : p.walk.steps.getLast? ≠ some .stay := by
  rcases exists_last_part open_end with empty | ⟨before, last, split, filled, moves⟩
  · simp [walk, parts, empty, Walk.Step.ofPart]
  · unfold walk
    rw [split, List.filterMap_append]
    unfold Walk.Step.ofPart
    by_cases double : last = dotDot
    · subst double
      simp [dotDot, dot]
    · simp [filled, moves, double]

theorem sameCourse_of_components (same : p.components = q.components) (open_p : ¬ p.AsksDirectory)
    (open_q : ¬ q.AsksDirectory) : Walk.SameCourse p.walk.steps q.walk.steps := by
  refine Walk.sameCourse_of_moves (getLast?_walk open_p) (getLast?_walk open_q) ?_
  rw [moves_walk, moves_walk, body_of_components same]

end Path

namespace FileSystem

variable {fs : FileSystem} {p q : Path} {xs ys : List Walk.Step}

/-! ## Walks that take the same course -/

/-- Two ways of getting to the first link or to the end. They are the same, but for how often they
stay behind a link. -/
inductive SameStage : Except Errno Stage → Except Errno Stage → Prop
  | same (reached : Except Errno Stage) : SameStage reached reached
  | link (dir : Location) (target : Path) {rest rest' : List Walk.Step}
      (left : Walk.SameCourse rest rest') :
      SameStage (.ok (.link dir target rest)) (.ok (.link dir target rest'))

theorem advance_of_sameCourse (same : Walk.SameCourse xs ys) (slash : Bool) (dir : Location) :
    SameStage (fs.advance slash dir xs) (fs.advance slash dir ys) := by
  induction same generalizing dir with
  | nil => exact .same _
  | left _ _ ih => exact ih dir
  | right _ _ ih => exact ih dir
  | both step further ih =>
    cases step with
    | stay => exact ih dir
    | up => exact ih dir.tail
    | down name =>
      rw [advance, advance]
      simp only [further.nil_iff]
      split
      · exact .same _
      split
      · exact .same _
      split
      · exact .same _
      · exact ih (name :: dir)
      · exact .link dir _ further
      · exact .same _

/-- **Steps that take the same course lead to the same end**, through any number of links. -/
theorem follow_of_sameCourse (same : Walk.SameCourse xs ys) (slash : Bool) (links : Nat)
    (dir : Location) : fs.follow links dir ⟨xs, slash⟩ = fs.follow links dir ⟨ys, slash⟩ := by
  have stage : SameStage (fs.advance slash dir xs) (fs.advance slash dir ys) :=
    advance_of_sameCourse same slash dir
  induction links generalizing dir xs ys slash with
  | zero =>
    rw [follow_zero, follow_zero]
    generalize fs.advance slash dir xs = one at stage ⊢
    generalize fs.advance slash dir ys = two at stage ⊢
    cases stage with
    | same => rfl
    | link => rfl
  | succ links ih =>
    rw [follow_succ, follow_succ]
    generalize fs.advance slash dir xs = one at stage ⊢
    generalize fs.advance slash dir ys = two at stage ⊢
    cases stage with
    | same => rfl
    | @link mid target rest rest' left =>
      have onward := left.append_left target.walk.steps
      simp only [detour, left.nil_iff]
      exact ih onward _ _ (advance_of_sameCourse onward _ _)

/-! ## Paths with the same components -/

/-- **Paths with the same components lead to the same place**, or nowhere for the same reason. -/
theorem resolve_of_components (same : p.components = q.components) (open_p : ¬ p.AsksDirectory)
    (open_q : ¬ q.AsksDirectory) (fits_p : p.bytes.length ≤ longestPath)
    (fits_q : q.bytes.length ≤ longestPath) : fs.resolve p = fs.resolve q := by
  have body := Path.body_of_components same
  have zero : 0 ∈ p.bytes ↔ 0 ∈ q.bytes := by
    rw [Path.zero_mem_iff, Path.zero_mem_iff, body]
  have empty : p.bytes = [] ↔ q.bytes = [] := by
    rw [Path.bytes_eq_nil_iff open_p, Path.bytes_eq_nil_iff open_q, body]
  have from_start : start fs.cwd p = start fs.cwd q := by
    rw [start, start, Path.isAbsolute_of_components same]
  have walked : fs.follow mostLinks (start fs.cwd p) p.walk =
      fs.follow mostLinks (start fs.cwd q) q.walk := by
    have walk_p : p.walk = ⟨p.walk.steps, false⟩ := by rw [← Path.slash_walk open_p]
    have walk_q : q.walk = ⟨q.walk.steps, false⟩ := by rw [← Path.slash_walk open_q]
    rw [walk_p, walk_q, from_start]
    exact follow_of_sameCourse (Path.sameCourse_of_components same open_p open_q) _ _ _
  simp only [resolve, zero, empty, Nat.not_lt.mpr fits_p, Nat.not_lt.mpr fits_q, walked]

theorem destination_of_components (same : p.components = q.components)
    (open_p : ¬ p.AsksDirectory) (open_q : ¬ q.AsksDirectory)
    (fits_p : p.bytes.length ≤ longestPath) (fits_q : q.bytes.length ≤ longestPath) :
    fs.destination p = fs.destination q := by
  unfold destination
  rw [resolve_of_components same open_p open_q fits_p fits_q]

theorem write_of_components (same : p.components = q.components) (open_p : ¬ p.AsksDirectory)
    (open_q : ¬ q.AsksDirectory) (fits_p : p.bytes.length ≤ longestPath)
    (fits_q : q.bytes.length ≤ longestPath) (content : Bytes) :
    fs.write p content = fs.write q content := by
  unfold write
  rw [destination_of_components same open_p open_q fits_p fits_q]

/-- **A path that can only mean a directory leads to no place for a file.** -/
theorem destination_of_asksDirectory (asks : p.AsksDirectory) (place : Location) :
    fs.destination p ≠ .ok place := by
  intro leads
  obtain ⟨_, _, no_slash, _, _, landing, at_place, route⟩ := destination_eq_ok_iff_leadsTo.mp leads
  rcases asks with slash_last | dot_last
  · exact no_slash slash_last
  · obtain ⟨before, split⟩ := List.getLast?_eq_some_iff.mp dot_last
    have steps : p.walk.steps = before.filterMap Walk.Step.ofPart ++ [.stay] := by
      rw [Path.walk, split, List.filterMap_append]
      rfl
    rw [steps] at route
    obtain ⟨_, _, _, _, _, onward⟩ := route.split (List.cons_ne_nil _ _)
    cases onward with
    | stay further =>
      cases further
      cases at_place

end FileSystem

end GroupKey
