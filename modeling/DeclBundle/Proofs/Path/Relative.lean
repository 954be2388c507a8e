import DeclBundle.Proofs.Path.Location

namespace DeclBundle

namespace Path

/-- An absolute path in normal form, but for slashes and dots that mean nothing. -/
structure IsNormal (p : Path) : Prop where
  rooted : p.isRooted
  normal : p.normalize.same p

def Inside (base p : Path) : Prop := ∃ ns, ns ≠ [] ∧ p.location = base.location.descend ns

theorem IsNormal.steps_eq_location {p : Path} (normal : p.IsNormal) : p.steps = p.location.steps := by
  have same := normal.normal
  simp only [Path.same, decide_eq_true_eq] at same
  rw [← same, steps_normalize]

theorem steps_location_of_rooted {p : Path} (rooted : p.isRooted) :
    p.location.steps = .root :: p.location.names.map .name :=
  Location.steps_of_rooted p.location_sound ((rooted_location p).trans rooted)

theorem location_of_rooted {p : Path} (rooted : p.isRooted) :
    p.location = ⟨true, 0, p.location.names⟩ := by
  have top := p.location_sound.top
  have same := (rooted_location p).trans rooted
  rw [← same, ← top same]

theorem IsNormal.steps_eq_names {p : Path} (normal : p.IsNormal) :
    p.steps = .root :: p.location.names.map .name :=
  normal.steps_eq_location.trans (steps_location_of_rooted normal.rooted)

theorem IsNormal.of_steps {p : Path} (rooted : p.isRooted) {ns : List String}
    (steps : p.steps = .root :: ns.map .name) : p.IsNormal ∧ p.location = ⟨true, 0, ns⟩ := by
  have place : p.location = ⟨true, 0, ns⟩ := by
    unfold location
    rw [steps]
    exact Location.walk_names Location.root ns
  refine ⟨⟨rooted, ?_⟩, place⟩
  simp only [Path.same, decide_eq_true_eq]
  rw [steps_normalize, place, steps]
  rfl

theorem sharedLength_le_left (as bs : List Step) : sharedLength as bs ≤ as.length := by
  induction as generalizing bs with
  | nil => simp [sharedLength]
  | cons a as ih =>
    cases bs with
    | nil => simp [sharedLength]
    | cons b bs =>
      unfold sharedLength
      split
      · exact Nat.succ_le_succ (ih bs)
      · exact Nat.zero_le _

theorem take_sharedLength (as bs : List Step) :
    as.take (sharedLength as bs) = bs.take (sharedLength as bs) := by
  induction as generalizing bs with
  | nil => simp [sharedLength]
  | cons a as ih =>
    cases bs with
    | nil => simp [sharedLength]
    | cons b bs =>
      by_cases same : a = b
      · simp [sharedLength, same, ih]
      · simp [sharedLength, same]

theorem sharedLength_append (cs as bs : List Step) :
    sharedLength (cs ++ as) (cs ++ bs) = cs.length + sharedLength as bs := by
  induction cs with
  | nil => simp
  | cons c cs ih =>
    simp only [List.cons_append, sharedLength, if_true, ih, List.length_cons]
    omega

theorem sharedLength_append_of_lt {as bs : List Step} (parted : sharedLength as bs < as.length)
    (cs : List Step) : sharedLength (as ++ cs) bs = sharedLength as bs := by
  induction as generalizing bs with
  | nil => simp [sharedLength] at parted
  | cons a as ih =>
    cases bs with
    | nil => simp [sharedLength]
    | cons b bs =>
      by_cases same : a = b
      · simp only [sharedLength, same, if_true, List.length_cons, List.cons_append] at parted ⊢
        rw [ih (by omega)]
      · simp [sharedLength, same]

end Path

namespace Location

def shared (ms ns : List String) : Nat := Path.sharedLength (ms.map .name) (ns.map .name)

theorem shared_le (ms ns : List String) : shared ms ns ≤ ms.length := by
  simpa [shared] using Path.sharedLength_le_left (ms.map .name) (ns.map .name)

theorem map_name_inj {ms ns : List String} : ms.map Step.name = ns.map Step.name ↔ ms = ns :=
  List.map_inj_right fun _ _ same => Step.name.inj same

theorem take_shared (ms ns : List String) : ms.take (shared ms ns) = ns.take (shared ms ns) := by
  apply map_name_inj.mp
  rw [List.map_take, List.map_take]
  exact Path.take_sharedLength ..

theorem shared_append (ls ms ns : List String) :
    shared (ls ++ ms) (ls ++ ns) = ls.length + shared ms ns := by
  simp [shared, Path.sharedLength_append]

theorem shared_append_of_lt {ms ns : List String} (parted : shared ms ns < ms.length)
    (ls : List String) : shared (ms ++ ls) ns = shared ms ns := by
  unfold shared at parted ⊢
  rw [List.map_append]
  exact Path.sharedLength_append_of_lt (by simpa using parted) _

theorem eq_append_of_shared {ms ns : List String} (all : shared ms ns = ms.length) :
    ∃ rest, ns = ms ++ rest := by
  have taken := take_shared ms ns
  rw [all, List.take_length] at taken
  exact ⟨ns.drop ms.length, by rw [← List.take_append_drop ms.length ns, ← taken]; simp⟩

def between (source goal : Location) : Location :=
  ⟨false, source.names.length - shared source.names goal.names,
    goal.names.drop (shared source.names goal.names)⟩

/-- Where the way from `source` to `goal` leads when it starts from `here`. -/
def seenFrom (here source goal : List String) : List String :=
  here.take (here.length - (source.length - shared source goal)) ++ goal.drop (shared source goal)

theorem walk_between {here : Location} (rooted : here.rooted) (source goal : Location) :
    here.walk (between source goal).steps =
      { here with names := seenFrom here.names source.names goal.names } := by
  simp only [between, steps, Bool.false_eq_true, if_false, List.nil_append]
  rw [walk_append, walk_parents rooted, walk_names]
  rfl

theorem seenFrom_append (here source below goal : List String) :
    seenFrom (here ++ below) (source ++ below) goal = seenFrom here source goal := by
  by_cases parted : shared source goal < source.length
  · have length : (here ++ below).length - ((source ++ below).length - shared source goal) =
        here.length - (source.length - shared source goal) := by
      simp only [List.length_append]
      omega
    have short : here.length - (source.length - shared source goal) ≤ here.length := by omega
    simp only [seenFrom, shared_append_of_lt parted]
    rw [length, List.take_append_of_le_length short]
  · -- The goal is below the source, so the way climbs only out of what was added.
    have bound := shared_le source goal
    have all : shared source goal = source.length := by omega
    obtain ⟨rest, rfl⟩ := eq_append_of_shared all
    have inner := shared_le below rest
    have length : (here ++ below).length -
        ((source ++ below).length - (source.length + shared below rest)) =
        here.length + shared below rest := by
      simp only [List.length_append]
      omega
    have beyond : (source ++ rest).drop (source.length + shared below rest) =
        rest.drop (shared below rest) := by
      rw [← List.drop_drop, List.drop_left]
    simp only [seenFrom, all, Nat.sub_self, Nat.sub_zero, List.take_length, List.drop_left]
    rw [shared_append, length, beyond, List.take_length_add_append, take_shared, List.append_assoc,
      List.take_append_drop]

theorem drop_shared_concat {source goal : List String} {n : String}
    (apart : ¬(goal ++ [n]) <+: source) :
    (goal ++ [n]).drop (shared source (goal ++ [n])) =
      goal.drop (shared source (goal ++ [n])) ++ [n] := by
  apply List.drop_append_of_le_length
  by_contra beyond
  apply apart
  have taken := take_shared source (goal ++ [n])
  rw [List.take_of_length_le (l := goal ++ [n]) (by simp; omega)] at taken
  exact taken ▸ List.take_prefix ..

theorem seenFrom_inside (here source below : List String) :
    seenFrom here source (source ++ below) = here ++ below := by
  have all : shared source (source ++ below) = source.length := by
    have zero : shared [] below = 0 := by simp [shared, Path.sharedLength]
    simpa [zero] using shared_append source [] below
  simp [seenFrom, all]

theorem seenFrom_self (source goal : List String) : seenFrom source source goal = goal := by
  have bound := shared_le source goal
  have kept : source.length - (source.length - shared source goal) = shared source goal := by omega
  rw [seenFrom, kept, take_shared, List.take_append_drop]

end Location

namespace Path

theorem relativeTo_eq {base target : Path} (fromRoot : base.isRooted) (toRooted : target.isRooted) :
    base.relativeTo target = ofSteps (Location.between base.location target.location).steps := by
  have shared : sharedLength (.root :: base.location.names.map .name)
      (.root :: target.location.names.map .name) =
      Location.shared base.location.names target.location.names + 1 := by
    simp [sharedLength, Location.shared]
  unfold relativeTo
  dsimp only
  rw [steps_location_of_rooted fromRoot, steps_location_of_rooted toRooted, shared]
  simp only [List.drop_succ_cons, List.length_cons, List.length_map, Nat.add_sub_add_right,
    ← List.map_drop]
  split
  · rename_i rest parts
    cases names : target.location.names.drop
      (Location.shared base.location.names target.location.names) <;> simp [names] at parts
  · simp [Location.between, Location.steps]

theorem between_sound (source : Location) {goal : Location} (sound : goal.Sound) :
    (Location.between source goal).Sound :=
  ⟨fun n member => sound.named n (List.drop_subset _ _ member), by simp [Location.between]⟩

theorem location_relativeTo {base target : Path} (fromRoot : base.isRooted)
    (toRooted : target.isRooted) :
    (base.relativeTo target).location = Location.between base.location target.location := by
  rw [relativeTo_eq fromRoot toRooted]
  exact location_ofSteps (between_sound _ target.location_sound)

theorem steps_relativeTo {base target : Path} (fromRoot : base.isRooted)
    (toRooted : target.isRooted) :
    (base.relativeTo target).steps = (Location.between base.location target.location).steps := by
  rw [relativeTo_eq fromRoot toRooted]
  exact steps_ofSteps_location (between_sound _ target.location_sound)

theorem relative_relativeTo {base target : Path} (fromRoot : base.isRooted)
    (toRooted : target.isRooted) : ¬(base.relativeTo target).isRooted := by
  rw [← rooted_location, location_relativeTo fromRoot toRooted]
  simp [Location.between]

theorem location_resolve_relativeTo {here base target : Path} (start : here.isRooted)
    (fromRoot : base.isRooted) (toRooted : target.isRooted) :
    (here.resolve (base.relativeTo target)).location =
      { here.location with
        names := Location.seenFrom here.location.names base.location.names target.location.names } := by
  rw [location_resolve, if_neg (relative_relativeTo fromRoot toRooted),
    steps_relativeTo fromRoot toRooted]
  exact Location.walk_between ((rooted_location here).trans start) ..

theorem location_resolve_relativeTo_self {base target : Path} (fromRoot : base.isRooted)
    (toRooted : target.isRooted) : (base.resolve (base.relativeTo target)).location = target.location := by
  rw [location_resolve_relativeTo fromRoot fromRoot toRooted, Location.seenFrom_self,
    location_of_rooted fromRoot, location_of_rooted toRooted]

theorem IsNormal.same_resolve {q : Path} (normal : q.IsNormal) {base p : Path}
    (place : (base.resolve p).location = q.location) : q.same (base.resolve p) := by
  unfold resolve at place ⊢
  rw [location_normalize] at place
  rw [same_iff, steps_normalize, place, normal.steps_eq_location]

theorem relativeTo_inside {base target : Path} {ns : List String}
    (place : target.location = base.location.descend ns) :
    base.relativeTo target = ofSteps (ns.map .name) := by
  have shared : sharedLength base.location.steps target.location.steps =
      base.location.steps.length := by
    have nothing : sharedLength [] (ns.map Step.name) = 0 := by simp [sharedLength]
    rw [place, Location.steps_descend]
    simpa [nothing] using sharedLength_append base.location.steps [] (ns.map .name)
  unfold relativeTo
  dsimp only
  rw [shared, place, Location.steps_descend, List.drop_left, Nat.sub_self]
  cases ns <;> rfl

theorem location_resolve_inside (here : Path) {base target : Path} {ns : List String}
    (place : target.location = base.location.descend ns) :
    (here.resolve (base.relativeTo target)).location = here.location.descend ns := by
  have named : ∀ c ∈ ns.map Step.name, c.Proper := by
    intro c member
    obtain ⟨n, inside, rfl⟩ := List.mem_map.mp member
    exact target.location_sound.named n (by simp [place, inside])
  rw [relativeTo_inside place, location_resolve_ofSteps here named, Location.walk_names]

theorem text_ofSteps_concat (cs : List Step) (n ending : String) :
    (ofSteps (cs ++ [.name (n ++ ending)])).text = (ofSteps (cs ++ [.name n])).text ++ ending := by
  have written (m : String) :
      (ofSteps (cs ++ [.name m])).text = "/".intercalate (cs.map Step.text ++ [m]) := by
    unfold ofSteps
    split
    · rename_i same
      simp [List.append_eq_cons_iff] at same
    · simp [Step.text]
  have longer (texts : List (List Char)) (m : List Char) :
      ['/'].intercalate (texts ++ [m ++ ending.toList]) =
        ['/'].intercalate (texts ++ [m]) ++ ending.toList := by
    induction texts with
    | nil => simp
    | cons first texts ih =>
      rw [List.cons_append, List.intercalate_cons_of_ne_nil (by simp), ih, List.cons_append,
        List.intercalate_cons_of_ne_nil (by simp)]
      simp only [List.append_assoc]
  rw [written, written, ← String.toList_inj]
  simpa using longer ((cs.map Step.text).map String.toList) n.toList

/-- The way to a target that is not above its source, up to its last name. Another last name leads to
what stands next to the target. -/
theorem relativeTo_concat {base target : Path} (fromRoot : base.isRooted)
    (toRooted : target.isRooted) {ns : List String} {n : String}
    (place : target.location.names = ns ++ [n]) (apart : ¬(ns ++ [n]) <+: base.location.names) :
    ∃ cs, base.relativeTo target = ofSteps (cs ++ [.name n]) ∧
      ∀ here : Path, here.isRooted → ∃ ms,
        Location.seenFrom here.location.names base.location.names (ns ++ [n]) = ms ++ [n] ∧
        ∀ m, IsName m → (here.resolve (ofSteps (cs ++ [.name m]))).location =
          { here.location with names := ms ++ [m] } := by
  let k := Location.shared base.location.names (ns ++ [n])
  let count := base.location.names.length - k
  let cs : List Step := List.replicate count .parent ++ (ns.drop k).map .name
  have tail : (ns ++ [n]).drop k = ns.drop k ++ [n] := Location.drop_shared_concat apart
  have named : ∀ c ∈ cs, c.Proper := by
    intro c member
    rcases List.mem_append.mp member with up | down
    · rw [List.eq_of_mem_replicate up]
      trivial
    · obtain ⟨m, inside, rfl⟩ := List.mem_map.mp down
      exact target.location_sound.named m (by simp [place, List.drop_subset k _ inside])
  refine ⟨cs, ?_, ?_⟩
  · have same : (Location.between base.location target.location).steps = cs ++ [.name n] := by
      simp only [Location.between, Location.steps, place]
      rw [tail]
      simp [cs, count, k]
    rw [relativeTo_eq fromRoot toRooted, same]
  · intro here rooted
    let ms := here.location.names.take (here.location.names.length - count) ++ ns.drop k
    refine ⟨ms, by simp only [Location.seenFrom, ms, count, k, tail, List.append_assoc], ?_⟩
    intro m name
    have proper : ∀ c ∈ cs ++ [.name m], c.Proper := by
      intro c member
      rcases List.mem_append.mp member with member | last
      · exact named c member
      · exact List.mem_singleton.mp last ▸ name
    rw [location_resolve_ofSteps here proper, Location.walk_append, Location.walk_append,
      Location.walk_parents ((rooted_location here).trans rooted), Location.walk_names]
    exact Location.walk_names _ [m]

end Path

end DeclBundle
