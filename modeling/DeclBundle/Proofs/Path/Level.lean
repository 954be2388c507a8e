import DeclBundle.Proofs.Path.FileName

namespace DeclBundle

namespace Location

def Level (l : Location) : Prop := l.names.length = l.ups

instance (l : Location) : Decidable l.Level := inferInstanceAs (Decidable (_ = _))

theorem go_parent_of_relative {l : Location} (relative : ¬l.rooted) :
    l.go .parent = ⟨false, l.ups + (1 - l.names.length), l.names.dropLast⟩ := by
  obtain ⟨rooted, ups, ns⟩ := l
  cases ns <;> simp_all [go]

theorem walk_parents_of_relative {l : Location} (relative : ¬l.rooted) (count : Nat) :
    l.walk (List.replicate count .parent) =
      ⟨false, l.ups + (count - l.names.length), l.names.take (l.names.length - count)⟩ := by
  induction count generalizing l with
  | zero =>
    obtain ⟨rooted, ups, ns⟩ := l
    simp_all [walk]
  | succ count ih =>
    have step : l.walk (List.replicate (count + 1) .parent) =
        (l.go .parent).walk (List.replicate count .parent) := rfl
    have ups : l.ups + (1 - l.names.length) + (count - (l.names.length - 1)) =
        l.ups + (count + 1 - l.names.length) := by omega
    have fewer : min (l.names.length - 1 - count) (l.names.length - 1) =
        l.names.length - (count + 1) := by omega
    rw [step, go_parent_of_relative relative, ih (by simp)]
    simp only [List.length_dropLast]
    rw [ups, List.dropLast_eq_take, List.take_take, fewer]

theorem ups_le_walk {cs : List Step} (proper : .root ∉ cs) (l : Location) : l.ups ≤ (l.walk cs).ups := by
  induction cs generalizing l with
  | nil => exact Nat.le_refl _
  | cons c cs ih =>
    have first : l.ups ≤ (l.go c).ups := by
      cases c with
      | root => simp at proper
      | current => exact Nat.le_refl _
      | parent =>
        simp only [go]
        split
        · exact Nat.le_refl _
        · split <;> simp
      | name n => exact Nat.le_refl _
    apply Nat.le_trans first
    exact ih (fun member => proper (List.mem_cons_of_mem c member)) (l.go c)

/-- The shortest way to `k` leads from `l` to `k` as well if it climbs out of all names of `l`, and these are as
many as the steps up that are added to it. -/
theorem walk_steps_eq_iff {l k : Location} (relative : ¬l.rooted) (relative' : ¬k.rooted) :
    l.walk k.steps = k ↔ l.Level ∧ l.ups ≤ k.ups := by
  obtain ⟨rooted, ups, ns⟩ := k
  obtain rfl : rooted = false := by simpa using relative'
  have steps : (⟨false, ups, ns⟩ : Location).steps = List.replicate ups .parent ++ ns.map .name := rfl
  rw [steps, walk_append, walk_parents_of_relative relative, walk_names]
  simp only [descend, Location.mk.injEq, true_and, List.append_left_eq_self, List.take_eq_nil_iff, Level]
  constructor
  · intro same
    obtain ⟨up, down⟩ := same
    have short : l.names.length ≤ ups := by
      rcases down with none | none
      · omega
      · simp [none]
    omega
  · intro level
    obtain ⟨level, up⟩ := level
    exact ⟨by omega, .inl (by omega)⟩

theorem steps_inj {l k : Location} (sound : l.Sound) (sound' : k.Sound) : l.steps = k.steps ↔ l = k := by
  constructor
  · intro same
    rw [← walk_steps sound, same, walk_steps sound']
  · exact congrArg steps

end Location

namespace Path

theorem relative_location {p : Path} (relative : ¬p.isRooted) : ¬p.location.rooted := by
  rwa [rooted_location]

theorem same_resolve_resolve_iff (base p : Path) :
    (base.resolve (base.resolve p)).same (base.resolve p) ↔
      p.isRooted ∨ base.isRooted ∨ base.location.Level := by
  rw [same_iff, steps_resolve, steps_resolve, Location.steps_inj (location_sound _) (location_sound _),
    location_resolve base (base.resolve p)]
  have known := isRooted_resolve_iff base p
  by_cases rooted : (base.resolve p).isRooted
  · rw [if_pos rooted]
    exact iff_of_true rfl ((known.mp rooted).imp_right .inl)
  · obtain ⟨relative, relative'⟩ := not_or.mp (mt known.mpr rooted)
    have climbs : base.location.ups ≤ (base.resolve p).location.ups := by
      rw [location_resolve, if_neg relative]
      exact Location.ups_le_walk (root_notMem_steps relative) _
    rw [if_neg rooted, steps_resolve,
      Location.walk_steps_eq_iff (relative_location relative') (relative_location rooted)]
    simp [relative, relative', climbs]

theorem same_resolve_join_iff (base : Path) {n : String} (name : IsName n) :
    (base.resolve (base.join ⟨n⟩)).same (base.join ⟨n⟩) ↔
      base.steps = base.location.steps ∧ (base.isRooted ∨ base.location.Level) := by
  have joined : (base.join ⟨n⟩).isRooted ↔ base.isRooted := by
    rw [← rooted_location, location_join_name base name, Location.descend_rooted, rooted_location]
  have cancel (l : Location) : (l.descend [n]).steps = base.steps ++ [.name n] ↔ l.steps = base.steps := by
    rw [Location.steps_descend]
    exact List.append_left_inj _
  rw [same_iff, steps_resolve, location_resolve, steps_join_name base name]
  by_cases rooted : base.isRooted
  · rw [if_pos (joined.mpr rooted), location_join_name base name, cancel]
    simp [rooted, eq_comm]
  · have twice : base.location.walk (base.steps ++ [.name n]) = (base.location.walk base.steps).descend [n] := by
      rw [Location.walk_append]
      exact Location.walk_names _ [n]
    rw [if_neg (mt joined.mp rooted), twice, cancel]
    have relative := relative_location rooted
    constructor
    · intro again
      -- Where the base leads twice over is where it leads, so its way there is the shortest.
      have sound : (base.location.walk base.steps).Sound :=
        Location.walk_sound base.location_sound fun _ member => isName_of_mem_steps member
      have once : base.location = base.location.walk base.steps := by
        have whole := Location.walk_steps sound
        rwa [again] at whole
      have normal : base.steps = base.location.steps := by rw [once, again]
      have level := once.symm
      rw [normal, Location.walk_steps_eq_iff relative relative] at level
      exact ⟨normal, .inr level.1⟩
    · intro level
      obtain ⟨normal, rooted' | level⟩ := level
      · exact absurd rooted' rooted
      · rw [normal, (Location.walk_steps_eq_iff relative relative).mpr ⟨level, Nat.le_refl _⟩]

end Path

end DeclBundle
