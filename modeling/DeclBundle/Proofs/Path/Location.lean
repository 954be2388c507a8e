import DeclBundle.Proofs.Path.Steps

namespace DeclBundle

namespace Location

/-- What every location of a path fulfils: names are names, and there is no way up from the root. -/
structure Sound (l : Location) : Prop where
  named : ∀ n ∈ l.names, IsName n
  top : l.rooted → l.ups = 0

def descend (l : Location) (ns : List String) : Location := { l with names := l.names ++ ns }

@[simp] theorem descend_names (l : Location) (ns : List String) :
    (l.descend ns).names = l.names ++ ns := rfl

@[simp] theorem descend_rooted (l : Location) (ns : List String) :
    (l.descend ns).rooted = l.rooted := rfl

@[simp] theorem descend_ups (l : Location) (ns : List String) : (l.descend ns).ups = l.ups := rfl

@[simp] theorem descend_nil (l : Location) : l.descend [] = l := by simp [descend]

@[simp] theorem descend_descend (l : Location) (ms ns : List String) :
    (l.descend ms).descend ns = l.descend (ms ++ ns) := by simp [descend]

theorem descend_inj {l : Location} {ms ns : List String} :
    l.descend ms = l.descend ns ↔ ms = ns := by
  simp [descend]

theorem descend_one_inj {k l : Location} {m n : String} (same : k.descend [m] = l.descend [n]) :
    k = l ∧ m = n := by
  obtain ⟨rooted, ups, ms⟩ := k
  obtain ⟨rooted', ups', ns⟩ := l
  simp_all [descend]

theorem walk_append (l : Location) (cs ds : List Step) :
    l.walk (cs ++ ds) = (l.walk cs).walk ds := List.foldl_append ..

theorem walk_names (l : Location) (ns : List String) : l.walk (ns.map .name) = l.descend ns := by
  induction ns generalizing l with
  | nil => simp [walk]
  | cons n ns ih =>
    have step : l.walk ((n :: ns).map .name) = (l.descend [n]).walk (ns.map .name) := rfl
    rw [step, ih, descend_descend, List.singleton_append]

theorem go_parent {l : Location} (rooted : l.rooted) :
    l.go .parent = { l with names := l.names.dropLast } := by
  by_cases empty : l.names = []
  · obtain ⟨r, u, ns⟩ := l
    cases empty
    simp_all [go]
  · simp [go, empty]

theorem walk_parents {l : Location} (rooted : l.rooted) (count : Nat) :
    l.walk (List.replicate count .parent) =
      { l with names := l.names.take (l.names.length - count) } := by
  induction count generalizing l with
  | zero => simp [walk]
  | succ count ih =>
    have step : l.walk (List.replicate (count + 1) .parent) =
        (l.go .parent).walk (List.replicate count .parent) := rfl
    rw [step, go_parent rooted, ih (by exact rooted)]
    have fewer : min (l.names.length - 1 - count) (l.names.length - 1) =
        l.names.length - (count + 1) := by omega
    rw [List.length_dropLast, List.dropLast_eq_take, List.take_take, fewer]

theorem walk_start_parents (count : Nat) :
    start.walk (List.replicate count .parent) = ⟨false, count, []⟩ := by
  have go (u : Nat) : (⟨false, u, []⟩ : Location).walk (List.replicate count .parent) =
      ⟨false, u + count, []⟩ := by
    induction count generalizing u with
    | zero => rfl
    | succ count ih =>
      have step : (⟨false, u, []⟩ : Location).walk (List.replicate (count + 1) .parent) =
          (⟨false, u + 1, []⟩ : Location).walk (List.replicate count .parent) := rfl
      rw [step, ih]
      congr 1
      omega
  simpa [start] using go 0

theorem go_sound {l : Location} (sound : l.Sound) {c : Step} (named : ∀ n, c = .name n → IsName n) :
    (l.go c).Sound := by
  cases c with
  | root => exact ⟨by simp [go, root], by simp [go, root]⟩
  | current => exact sound
  | parent =>
    by_cases empty : l.names = []
    · by_cases rooted : l.rooted
      · simpa [go, empty, rooted] using sound
      · exact ⟨by simp [go, empty, rooted], by simp [go, empty, rooted]⟩
    · refine ⟨?_, ?_⟩
      · simp only [go, ne_eq, empty, not_false_eq_true, if_true]
        exact fun n member => sound.named n (List.dropLast_subset _ member)
      · simpa [go, empty] using sound.top
  | name n =>
    refine ⟨?_, sound.top⟩
    intro m member
    rcases List.mem_append.mp member with member | member
    · exact sound.named m member
    · rw [List.mem_singleton.mp member]
      exact named n rfl

theorem walk_sound {l : Location} (sound : l.Sound) {cs : List Step}
    (named : ∀ n, .name n ∈ cs → IsName n) : (l.walk cs).Sound := by
  induction cs generalizing l with
  | nil => exact sound
  | cons c cs ih =>
    have first : (l.go c).Sound := go_sound sound fun n same => named n (by simp [same])
    exact ih first fun n member => named n (by simp [member])

theorem walk_steps {l : Location} (sound : l.Sound) : start.walk l.steps = l := by
  obtain ⟨rooted, ups, ns⟩ := l
  cases rooted with
  | false =>
    simp only [steps, Bool.false_eq_true, if_false, List.nil_append]
    rw [walk_append, walk_start_parents, walk_names]
    rfl
  | true =>
    have top : ups = 0 := sound.top rfl
    simp only [steps, if_true, top, List.replicate_zero, List.append_nil]
    rw [walk_append, walk_names]
    rfl

theorem steps_descend (l : Location) (ns : List String) :
    (l.descend ns).steps = l.steps ++ ns.map .name := by
  unfold steps
  rw [descend_names, descend_ups, List.map_append, ← List.append_assoc]
  rfl

theorem steps_of_rooted {l : Location} (sound : l.Sound) (rooted : l.rooted) :
    l.steps = .root :: l.names.map .name := by
  simp [steps, rooted, sound.top rooted]

end Location

namespace Path

theorem location_sound (p : Path) : p.location.Sound :=
  Location.walk_sound ⟨by simp [Location.start], by simp [Location.start]⟩
    fun _ member => isName_of_mem_steps member

theorem location_eq (p : Path) :
    p.location = (if p.isRooted then Location.root else .start).walk (p.pieces.filterMap stepOf) := by
  unfold location
  rw [steps_eq, Location.walk_append]
  cases anchor : (splitPieces p.pieces).1 <;> simp [isRooted_iff, anchor] <;> rfl

theorem walk_steps_of_relative {p : Path} (relative : ¬p.isRooted) (l : Location) :
    l.walk p.steps = l.walk (p.pieces.filterMap stepOf) := by
  rw [steps_eq, Location.walk_append]
  cases anchor : (splitPieces p.pieces).1 with
  | rooted => exact absurd ((isRooted_iff p).mpr anchor) relative
  | dotted => rfl
  | bare => rfl

theorem steps_ofSteps_location {l : Location} (sound : l.Sound) : (ofSteps l.steps).steps = l.steps := by
  have named : ∀ c ∈ l.names.map Step.name, c.Proper := by
    intro c member
    obtain ⟨n, inside, rfl⟩ := List.mem_map.mp member
    exact sound.named n inside
  cases rooted : l.rooted with
  | true =>
    rw [Location.steps_of_rooted sound rooted]
    exact steps_ofSteps_root named
  | false =>
    apply steps_ofSteps
    intro c member
    simp only [Location.steps, rooted, Bool.false_eq_true, if_false, List.nil_append] at member
    rcases List.mem_append.mp member with up | down
    · rw [List.eq_of_mem_replicate up]
      trivial
    · exact named c down

theorem location_ofSteps {l : Location} (sound : l.Sound) : (ofSteps l.steps).location = l := by
  unfold location
  rw [steps_ofSteps_location sound, Location.walk_steps sound]

theorem location_normalize (p : Path) : p.normalize.location = p.location :=
  location_ofSteps p.location_sound

theorem steps_normalize (p : Path) : p.normalize.steps = p.location.steps :=
  steps_ofSteps_location p.location_sound

theorem normalize_eq_iff {p q : Path} : p.normalize = q.normalize ↔ p.location = q.location := by
  constructor
  · intro same
    rw [← location_normalize p, same, location_normalize]
  · intro same
    unfold normalize
    rw [same]

theorem normalize_normalize (p : Path) : p.normalize.normalize = p.normalize :=
  normalize_eq_iff.mpr p.location_normalize

theorem rooted_location (p : Path) : p.location.rooted = p.isRooted := by
  have walk (l : Location) (cs : List Step) (proper : ∀ c ∈ cs, c.Proper) :
      (l.walk cs).rooted = l.rooted := by
    induction cs generalizing l with
    | nil => rfl
    | cons c cs ih =>
      have first : (l.go c).rooted = l.rooted := by
        cases c with
        | root => exact (proper .root (by simp)).elim
        | current => rfl
        | parent =>
          simp only [Location.go]
          split
          · rfl
          · split <;> rfl
        | name n => rfl
      exact (ih (l.go c) fun c member => proper c (by simp [member])).trans first
  rw [location_eq, walk _ _ fun c member => proper_of_mem_pieces member]
  split <;> simp_all [Location.root, Location.start]

theorem isRooted_normalize (p : Path) : p.normalize.isRooted = p.isRooted := by
  rw [← rooted_location, location_normalize, rooted_location]

theorem location_join (base p : Path) :
    (base.join p).location = if p.isRooted then p.location else base.location.walk p.steps := by
  by_cases rooted : p.isRooted
  · rw [join_of_rooted base rooted, if_pos rooted]
  · rw [if_neg rooted]
    by_cases empty : base.text = ""
    · have nowhere : base.location = .start := by
        rw [location_eq]
        simp [isRooted, pieces, empty, stepOf, isVoid, Location.walk]
      rw [join_of_empty empty, nowhere]
      rfl
    · rw [walk_steps_of_relative rooted, location_eq, location_eq base,
        isRooted_join rooted empty, filterMap_pieces_join base rooted, Location.walk_append]

theorem location_resolve (base p : Path) :
    (base.resolve p).location = if p.isRooted then p.location else base.location.walk p.steps :=
  (location_normalize _).trans (location_join base p)

theorem steps_resolve (base p : Path) : (base.resolve p).steps = (base.resolve p).location.steps := by
  unfold resolve
  rw [steps_normalize, location_normalize]

theorem isRooted_resolve_iff (base p : Path) :
    (base.resolve p).isRooted ↔ p.isRooted ∨ base.isRooted := by
  unfold resolve
  rw [isRooted_normalize]
  by_cases absolute : p.isRooted
  · simp [join_of_rooted base absolute, absolute]
  · by_cases empty : base.text = ""
    · simp [join_of_empty empty, isRooted, empty]
    · simp [isRooted_join absolute empty, absolute]

theorem isRooted_resolve {base : Path} (p : Path) (rooted : base.isRooted) :
    (base.resolve p).isRooted :=
  (isRooted_resolve_iff base p).mpr (.inr rooted)

theorem location_resolve_ofSteps (here : Path) {cs : List Step} (proper : ∀ c ∈ cs, c.Proper) :
    (here.resolve (ofSteps cs)).location = here.location.walk cs := by
  rw [location_resolve, if_neg (relative_ofSteps proper), steps_ofSteps proper]

end Path

end DeclBundle
