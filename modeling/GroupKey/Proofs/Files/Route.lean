import GroupKey.Proofs.Files.Frame

/-!
# Where a path leads, said without walking it

A link in the middle of a path stands for the directory that its own target leads to, and a link at
the end for whatever its target leads to. Said so, no step is put in place of another and nothing
has to be given up; the walk does both.

* `Leads`: where the steps of a path lead, and over how many links;
* `follow_of_leads`, `leads_of_follow`: the walk ends at a name exactly where the steps lead, if
  they lead there over no more links than it may follow;
* `LeadsTo`, `leadsTo_unique`: the place that a path names, of which there is at most one;
* `destination_eq_ok_iff_leadsTo`: the paths that can be opened for writing.
-/

namespace GroupKey.FileSystem

/-- Where steps lead from a directory, and over how many links. A step down goes into a directory,
through a link to one, or, if it is the last, to a name that need not be there. The target of a
link is a path of its own, which starts where the link is. At the end of a path it may not have a
slash behind it, unless it leads to a directory. -/
inductive Leads (fs : FileSystem) : Location → List Walk.Step → Nat → Landing → Prop
  | here (dir : Location) : Leads fs dir [] 0 (.directory dir)
  | stay {dir : Location} {rest : List Walk.Step} {links : Nat} {landing : Landing}
      (further : Leads fs dir rest links landing) : Leads fs dir (.stay :: rest) links landing
  | up {dir : Location} {rest : List Walk.Step} {links : Nat} {landing : Landing}
      (further : Leads fs dir.tail rest links landing) : Leads fs dir (.up :: rest) links landing
  | enter {dir : Location} {name : Bytes} {rest : List Walk.Step} {links : Nat} {landing : Landing}
      (fits : name.length ≤ longestName) (found : fs.node? (name :: dir) = some .directory)
      (further : Leads fs (name :: dir) rest links landing) :
      Leads fs dir (.down name :: rest) links landing
  | vacant {dir : Location} {name : Bytes} (fits : name.length ≤ longestName)
      (absent : fs.node? (name :: dir) = none) :
      Leads fs dir [.down name] 0 (.vacant (name :: dir))
  | occupied {dir : Location} {name : Bytes} {node : Node} (fits : name.length ≤ longestName)
      (found : fs.node? (name :: dir) = some node) (no_directory : node ≠ .directory)
      (no_link : ∀ target, node ≠ .link target) :
      Leads fs dir [.down name] 0 (.occupied (name :: dir))
  | through {dir mid : Location} {name : Bytes} {target : Path} {rest : List Walk.Step}
      {links more : Nat} {landing : Landing} (fits : name.length ≤ longestName)
      (found : fs.node? (name :: dir) = some (.link target))
      (there : Leads fs (start dir target) target.walk.steps links (.directory mid))
      (further : Leads fs mid rest more landing) :
      Leads fs dir (.down name :: rest) (links + 1 + more) landing
  | last {dir : Location} {name : Bytes} {target : Path} {links : Nat} {landing : Landing}
      (fits : name.length ≤ longestName) (found : fs.node? (name :: dir) = some (.link target))
      (no_slash : target.bytes.getLast? ≠ some Path.slash)
      (there : Leads fs (start dir target) target.walk.steps links landing) :
      Leads fs dir [.down name] (links + 1) landing

variable {fs : FileSystem} {dir mid : Location} {name : Bytes} {target : Path}
  {steps rest : List Walk.Step} {slash : Bool} {links : Nat} {landing : Landing}

/-! ## One step of the walk -/

theorem advance_down (fits : name.length ≤ longestName) (no_slash : ¬ (rest = [] ∧ slash)) :
    fs.advance slash dir (.down name :: rest) =
      match fs.node? (name :: dir) with
      | none => if rest = [] then .ok (.arrived (.vacant (name :: dir))) else .error .noEntry
      | some .directory => fs.advance slash (name :: dir) rest
      | some (.link target) => .ok (.link dir target rest)
      | some _ =>
        if rest = [] then .ok (.arrived (.occupied (name :: dir))) else .error .notDirectory := by
  have short : ¬ longestName < name.length := Nat.not_lt.mpr fits
  cases found : fs.node? (name :: dir) with
  | none => simp [advance, no_slash, short, found]
  | some node => cases node <;> simp [advance, no_slash, short, found]

theorem fits_of_advance {stage : Stage}
    (h : fs.advance slash dir (.down name :: rest) = .ok stage) :
    name.length ≤ longestName ∧ ¬ (rest = [] ∧ slash) := by
  rw [advance] at h
  split at h
  · cases h
  · next no_slash =>
    split at h
    · cases h
    · next fits => exact ⟨Nat.not_lt.mp fits, no_slash⟩

theorem follow_of_advance_eq {dir' : Location} {steps' : List Walk.Step}
    (same : fs.advance slash dir steps = fs.advance slash dir' steps') (links : Nat) :
    fs.follow links dir ⟨steps, slash⟩ = fs.follow links dir' ⟨steps', slash⟩ := by
  cases links with
  | zero => rw [follow_zero, follow_zero, same]
  | succ links => rw [follow_succ, follow_succ, same]

theorem follow_of_arrived (arrived : fs.advance slash dir steps = .ok (.arrived landing))
    (links : Nat) : fs.follow links dir ⟨steps, slash⟩ = .ok landing := by
  cases links with
  | zero => rw [follow_zero, arrived]
  | succ links => rw [follow_succ, arrived]

theorem follow_stay (links : Nat) :
    fs.follow links dir ⟨.stay :: rest, slash⟩ = fs.follow links dir ⟨rest, slash⟩ := by
  refine follow_of_advance_eq ?_ links
  rfl

theorem follow_up (links : Nat) :
    fs.follow links dir ⟨.up :: rest, slash⟩ = fs.follow links dir.tail ⟨rest, slash⟩ := by
  refine follow_of_advance_eq ?_ links
  rfl

theorem follow_enter (fits : name.length ≤ longestName) (no_slash : ¬ (rest = [] ∧ slash))
    (found : fs.node? (name :: dir) = some .directory) (links : Nat) :
    fs.follow links dir ⟨.down name :: rest, slash⟩ =
      fs.follow links (name :: dir) ⟨rest, slash⟩ := by
  refine follow_of_advance_eq ?_ links
  rw [advance_down fits no_slash, found]

theorem follow_link (fits : name.length ≤ longestName) (no_slash : ¬ (rest = [] ∧ slash))
    (found : fs.node? (name :: dir) = some (.link target)) (links : Nat) :
    fs.follow (links + 1) dir ⟨.down name :: rest, slash⟩ =
      fs.follow links (start dir target) (detour slash target rest) := by
  rw [follow_succ, advance_down fits no_slash, found]

/-! ## The walk goes where the steps lead -/

theorem ne_nil_of_leads (leads : fs.Leads dir steps links landing)
    (named : landing.place?.isSome) : steps ≠ [] := by
  rintro rfl
  cases leads
  cases named

/-- Steps that lead to a directory are walked to it, with what comes behind them still to go. -/
theorem follow_through (leads : fs.Leads dir steps links (.directory mid)) (spare : Nat)
    {more : List Walk.Step} (ne_nil : more ≠ []) (slash : Bool) :
    fs.follow (links + spare) dir ⟨steps ++ more, slash⟩ = fs.follow spare mid ⟨more, slash⟩ := by
  generalize ends : Landing.directory mid = landing at leads
  -- Along the route. What is behind grows when a target is walked, so it is kept general.
  induction leads generalizing mid spare more slash with
  | here dir =>
    cases ends
    rw [Nat.zero_add, List.nil_append]
  | stay _ ih => exact (follow_stay _).trans (ih spare ne_nil slash ends)
  | up _ ih => exact (follow_up _).trans (ih spare ne_nil slash ends)
  | @enter dir name rest links _ fits found _ ih =>
    have no_slash : ¬ (rest ++ more = [] ∧ slash) := by simp [ne_nil]
    rw [List.cons_append, follow_enter fits no_slash found]
    exact ih spare ne_nil slash ends
  | vacant => cases ends
  | occupied => cases ends
  | @through dir _ name target rest links more' _ fits found _ _ ih ih' =>
    have behind : rest ++ more ≠ [] := List.append_ne_nil_of_right_ne_nil rest ne_nil
    have budget : links + 1 + more' + spare = links + (more' + spare) + 1 := by omega
    rw [List.cons_append, budget, follow_link fits (fun h => behind h.1) found, detour,
      if_neg behind, ih _ behind slash rfl]
    exact ih' spare ne_nil slash ends
  | @last dir name target links _ fits found _ _ ih =>
    have budget : links + 1 + spare = links + spare + 1 := by omega
    rw [List.singleton_append, budget, follow_link fits (fun h => ne_nil h.1) found, detour,
      if_neg ne_nil]
    exact ih spare ne_nil slash ends

/-- **The walk ends at the name that the steps lead to**, with any number of links to spare. -/
theorem follow_of_leads (leads : fs.Leads dir steps links landing) (named : landing.place?.isSome)
    (spare : Nat) : fs.follow (links + spare) dir ⟨steps, false⟩ = .ok landing := by
  have open_end : ∀ rest : List Walk.Step, ¬ (rest = [] ∧ false = true) := by simp
  induction leads generalizing spare with
  | here => cases named
  | stay _ ih => exact (follow_stay _).trans (ih named spare)
  | up _ ih => exact (follow_up _).trans (ih named spare)
  | enter fits found _ ih =>
    rw [follow_enter fits (open_end _) found]
    exact ih named spare
  | vacant fits absent =>
    refine follow_of_arrived ?_ _
    rw [advance_down fits (open_end _), absent]
    rfl
  | @occupied _ _ node fits found no_directory no_link =>
    refine follow_of_arrived ?_ _
    rw [advance_down fits (open_end _), found]
    cases node with
    | directory => exact absurd rfl no_directory
    | link target => exact absurd rfl (no_link target)
    | file content => rfl
    | device kind => rfl
  | @through dir _ name target rest links more _ fits found there further _ ih' =>
    -- The walk puts the target in front of the rest and does not stop between the two.
    have behind := ne_nil_of_leads further named
    have budget : links + 1 + more + spare = links + (more + spare) + 1 := by omega
    rw [budget, follow_link fits (open_end _) found, detour, if_neg behind,
      follow_through there _ behind]
    exact ih' named spare
  | @last dir name target links _ fits found no_slash there ih =>
    have budget : links + 1 + spare = links + spare + 1 := by omega
    have slash : target.walk.slash = false := decide_eq_false no_slash
    rw [budget, follow_link fits (open_end _) found, detour, if_pos rfl, slash, List.append_nil]
    exact ih named spare

/-! ## The steps lead where the walk goes -/

theorem leads_of_arrived (h : fs.advance slash dir steps = .ok (.arrived landing))
    (named : landing.place?.isSome) : slash = false ∧ fs.Leads dir steps 0 landing := by
  induction steps generalizing dir with
  | nil =>
    cases h
    cases named
  | cons step rest ih =>
    cases step with
    | stay => exact (ih h).imp_right .stay
    | up => exact (ih h).imp_right .up
    | down name =>
      obtain ⟨fits, no_slash⟩ := fits_of_advance h
      rw [advance_down fits no_slash] at h
      split at h
      · next absent =>
        split at h
        · next none_left =>
          cases h
          subst none_left
          exact ⟨by simpa using no_slash, .vacant fits absent⟩
        · cases h
      · next found => exact (ih h).imp_right (.enter fits found)
      · cases h
      · next no_directory no_link found =>
        split at h
        · next none_left =>
          cases h
          subst none_left
          exact ⟨by simpa using no_slash, .occupied fits found no_directory no_link⟩
        · cases h

/-- A walk that has met a link is where it is. What is left of it leads where all of it does. -/
theorem leads_of_link (h : fs.advance slash dir steps = .ok (.link mid target rest)) :
    ∃ name, name.length ≤ longestName ∧ fs.node? (name :: mid) = some (.link target) ∧
      ¬ (rest = [] ∧ slash) ∧
      ∀ links landing, fs.Leads mid (.down name :: rest) links landing →
        fs.Leads dir steps links landing := by
  induction steps generalizing dir with
  | nil => cases h
  | cons step steps ih =>
    cases step with
    | stay =>
      obtain ⟨name, fits, found, no_slash, leads⟩ := ih h
      exact ⟨name, fits, found, no_slash, fun _ _ left => .stay (leads _ _ left)⟩
    | up =>
      obtain ⟨name, fits, found, no_slash, leads⟩ := ih h
      exact ⟨name, fits, found, no_slash, fun _ _ left => .up (leads _ _ left)⟩
    | down first =>
      obtain ⟨first_fits, open_end⟩ := fits_of_advance h
      rw [advance_down first_fits open_end] at h
      split at h
      · split at h <;> cases h
      · next entered =>
        obtain ⟨name, fits, found, no_slash, leads⟩ := ih h
        exact ⟨name, fits, found, no_slash, fun _ _ left => .enter first_fits entered (leads _ _ left)⟩
      · next found =>
        cases h
        exact ⟨first, first_fits, found, open_end, fun _ _ left => left⟩
      · split at h <;> cases h

theorem Leads.split {first : List Walk.Step} (behind : rest ≠ [])
    (leads : fs.Leads dir (first ++ rest) links landing) :
    ∃ mid before after, links = before + after ∧ fs.Leads dir first before (.directory mid) ∧
      fs.Leads mid rest after landing := by
  induction first generalizing dir links with
  | nil => exact ⟨dir, 0, links, (Nat.zero_add links).symm, .here dir, leads⟩
  | cons step first ih =>
    rw [List.cons_append] at leads
    have more : first ++ rest ≠ [] := List.append_ne_nil_of_right_ne_nil first behind
    generalize whole : first ++ rest = joined at leads more
    cases leads with
    | stay further =>
      obtain ⟨mid, before, after, sum, there, onward⟩ := ih (whole ▸ further)
      exact ⟨mid, before, after, sum, .stay there, onward⟩
    | up further =>
      obtain ⟨mid, before, after, sum, there, onward⟩ := ih (whole ▸ further)
      exact ⟨mid, before, after, sum, .up there, onward⟩
    | enter fits found further =>
      obtain ⟨mid, before, after, sum, there, onward⟩ := ih (whole ▸ further)
      exact ⟨mid, before, after, sum, .enter fits found there, onward⟩
    | vacant => exact absurd rfl more
    | occupied => exact absurd rfl more
    | @through _ _ _ _ _ links' _ _ fits found target further =>
      obtain ⟨mid, before, after, sum, there, onward⟩ := ih (whole ▸ further)
      exact ⟨mid, links' + 1 + before, after, by omega, .through fits found target there, onward⟩
    | last => exact absurd rfl more

/-- **Where the walk ends at a name, the steps lead there** over no more links than it may follow. -/
theorem leads_of_follow {walk : Walk} (h : fs.follow links dir walk = .ok landing)
    (named : landing.place?.isSome) :
    walk.slash = false ∧ ∃ used ≤ links, fs.Leads dir walk.steps used landing := by
  -- Each link that is met takes one from those that may be followed.
  induction links generalizing dir walk with
  | zero =>
    obtain arrived | ⟨_, _, _, _, more, _⟩ := follow_cases h
    · obtain ⟨no_slash, leads⟩ := leads_of_arrived arrived named
      exact ⟨no_slash, 0, Nat.le_refl 0, leads⟩
    · cases more
  | succ links ih =>
    obtain arrived | ⟨_, mid, target, rest, more, met, goes_on⟩ := follow_cases h
    · obtain ⟨no_slash, leads⟩ := leads_of_arrived arrived named
      exact ⟨no_slash, 0, Nat.zero_le _, leads⟩
    · cases more
      obtain ⟨name, fits, found, open_end, leads⟩ := leads_of_link met
      obtain ⟨no_slash, used, bound, onward⟩ := ih goes_on
      by_cases behind : rest = []
      · -- The link is the last step, so its target is all that is left to walk.
        subst behind
        rw [detour, if_pos rfl] at no_slash
        rw [detour, List.append_nil] at onward
        exact ⟨by simpa using open_end, used + 1, Nat.succ_le_succ bound,
          leads _ _ (.last fits found (of_decide_eq_false no_slash) onward)⟩
      · rw [detour, if_neg behind] at no_slash
        rw [detour] at onward
        obtain ⟨_, before, after, sum, there, further⟩ := onward.split behind
        exact ⟨no_slash, before + 1 + after, by omega,
          leads _ _ (.through fits found there further)⟩

/-! ## Paths -/

/-- The path leads to the place of a name, over no more links than may be followed. -/
def LeadsTo (fs : FileSystem) (p : Path) (place : Location) : Prop :=
  ∃ links ≤ mostLinks, ∃ landing : Landing, landing.place? = some place ∧
    fs.Leads (start fs.cwd p) p.walk.steps links landing

theorem leadsTo_unique {p : Path} {place other : Location} (leads : fs.LeadsTo p place)
    (leads' : fs.LeadsTo p other) : place = other := by
  obtain ⟨links, _, landing, at_place, route⟩ := leads
  obtain ⟨links', _, landing', at_place', route'⟩ := leads'
  have walked := follow_of_leads route (by rw [at_place]; rfl) links'
  have walked' := follow_of_leads route' (by rw [at_place']; rfl) links
  rw [Nat.add_comm, walked] at walked'
  cases walked'
  exact Option.some.inj (at_place.symm.trans at_place')

theorem Leads.fits (leads : fs.Leads dir steps links landing) (listed : .down name ∈ steps) :
    name.length ≤ longestName := by
  induction leads with
  | here => cases listed
  | stay _ ih => exact ih (by simpa using listed)
  | up _ ih => exact ih (by simpa using listed)
  | enter fits _ _ ih =>
    rcases List.mem_cons.mp listed with same | behind
    · cases same
      exact fits
    · exact ih behind
  | through fits _ _ _ _ ih =>
    rcases List.mem_cons.mp listed with same | behind
    · cases same
      exact fits
    · exact ih behind
  | vacant fits | occupied fits | last fits =>
    cases List.mem_singleton.mp listed
    exact fits

theorem LeadsTo.parts_fit {p : Path} {place : Location} (leads : fs.LeadsTo p place) {part : Bytes}
    (listed : part ∈ p.parts) : part.length ≤ longestName := by
  obtain ⟨_, _, _, _, route⟩ := leads
  by_cases special : part = [] ∨ part = Path.dot ∨ part = Path.dotDot
  · rcases special with rfl | rfl | rfl <;> decide
  · have name : Walk.Step.ofPart part = some (.down part) := by
      rw [not_or, not_or] at special
      simp [Walk.Step.ofPart, special]
    exact route.fits (List.mem_filterMap.mpr ⟨part, listed, name⟩)

theorem resolve_eq_ok_iff {p : Path} :
    fs.resolve p = .ok landing ↔
      0 ∉ p.bytes ∧ p.bytes.length ≤ longestPath ∧ p.bytes ≠ [] ∧
        fs.follow mostLinks (start fs.cwd p) p.walk = .ok landing := by
  unfold resolve
  split
  · next zero => simp [zero]
  split
  · next long => simp [Nat.not_le.mpr long]
  split
  · next empty => simp [empty]
  next no_zero short filled =>
  rw [Nat.not_lt] at short
  have told : (fs.follow mostLinks (start fs.cwd p) p.walk).mapError IoError.system = .ok landing ↔
      fs.follow mostLinks (start fs.cwd p) p.walk = .ok landing := by
    cases fs.follow mostLinks (start fs.cwd p) p.walk with
    | error cause => exact iff_of_false nofun nofun
    | ok arrived =>
      show (Except.ok arrived : Except IoError Landing) = .ok landing ↔ _
      rw [Except.ok.injEq, Except.ok.injEq]
  exact told.trans ⟨fun followed => ⟨no_zero, short, filled, followed⟩, fun ⟨_, _, _, followed⟩ =>
    followed⟩

theorem spot?_eq_some_iff {ε : Type} {walked : Except ε Landing} {place : Location} :
    spot? walked = some place ↔ ∃ landing, walked = .ok landing ∧ landing.place? = some place := by
  cases walked <;> simp [spot?, Except.toOption]

/-- **The paths that can be opened for writing**: those without a zero byte and not too long that
lead to a name and have no slash behind it. -/
theorem destination_eq_ok_iff_leadsTo {p : Path} {place : Location} :
    fs.destination p = .ok place ↔
      0 ∉ p.bytes ∧ p.bytes.length ≤ longestPath ∧ p.bytes.getLast? ≠ some Path.slash ∧
        fs.LeadsTo p place := by
  rw [destination_eq_ok_iff, spot?_eq_some_iff]
  constructor
  · rintro ⟨landing, resolved, at_place⟩
    obtain ⟨no_zero, short, _, walked⟩ := resolve_eq_ok_iff.mp resolved
    obtain ⟨no_slash, used, bound, route⟩ := leads_of_follow walked (by rw [at_place]; rfl)
    exact ⟨no_zero, short, of_decide_eq_false no_slash, used, bound, landing, at_place, route⟩
  · rintro ⟨no_zero, short, no_slash, used, bound, landing, at_place, route⟩
    have named : landing.place?.isSome := by rw [at_place]; rfl
    have filled : p.bytes ≠ [] := by
      intro empty
      have no_steps : p.walk.steps = [] := by
        simp [Path.walk, Path.parts, empty, Walk.Step.ofPart]
      exact ne_nil_of_leads route named no_steps
    have walked := follow_of_leads route named (mostLinks - used)
    rw [Nat.add_sub_cancel' bound] at walked
    have open_end : p.walk = ⟨p.walk.steps, false⟩ := by
      rw [Walk.mk.injEq]
      exact ⟨rfl, decide_eq_false no_slash⟩
    rw [← open_end] at walked
    exact ⟨landing, resolve_eq_ok_iff.mpr ⟨no_zero, short, filled, walked⟩, at_place⟩

theorem LeadsTo.of_destination {p : Path} {place : Location}
    (leads : fs.destination p = .ok place) : fs.LeadsTo p place :=
  (destination_eq_ok_iff_leadsTo.mp leads).2.2.2

end GroupKey.FileSystem
