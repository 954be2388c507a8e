import DeclBundle.Proofs.Path.Normal
import DeclBundle.Proofs.Path.Relative

namespace DeclBundle

namespace Path

theorem prefix_take_sharedLength_iff {as bs cs : List Step} :
    cs <+: as.take (sharedLength as bs) ↔ cs <+: as ∧ cs <+: bs := by
  induction as generalizing bs cs with
  | nil => simp +contextual [sharedLength]
  | cons a as ih =>
    cases bs with
    | nil => simp +contextual [sharedLength]
    | cons b bs =>
      cases cs with
      | nil => simp
      | cons c cs =>
        by_cases same : a = b
        · simp only [sharedLength, same, if_true, List.take_succ_cons, List.cons_prefix_cons, ih]
          tauto
        · have parted : ¬(c = a ∧ c = b) := fun both => same (both.1.symm.trans both.2)
          simp only [sharedLength, same, if_false, List.take_zero, List.prefix_nil, List.cons_prefix_cons, reduceCtorEq]
          tauto

theorem exists_parting (as bs : List Step) :
    ∃ shared up down, as = shared ++ up ∧ bs = shared ++ down ∧
      (∀ cs, cs <+: as → cs <+: bs → cs <+: shared) ∧
      up.length = as.length - sharedLength as bs ∧ down = bs.drop (sharedLength as bs) := by
  refine ⟨as.take (sharedLength as bs), as.drop (sharedLength as bs), bs.drop (sharedLength as bs),
    ?_, ?_, ?_, ?_, rfl⟩
  · rw [List.take_append_drop]
  · rw [take_sharedLength, List.take_append_drop]
  · intro cs left right
    exact prefix_take_sharedLength_iff.mpr ⟨left, right⟩
  · rw [List.length_drop]

theorem parent_notMem_normalize {p : Path} (rooted : p.isRooted) : .parent ∉ p.normalize.steps := by
  intro member
  exact (reduced_normalize p).relative member ((isRooted_normalize p).trans rooted)

theorem steps_relativeTo_eq {base target : Path} (fromRoot : base.isRooted) (toRooted : target.isRooted) :
    (base.relativeTo target).steps =
      List.replicate (base.normalize.steps.length -
        sharedLength base.normalize.steps target.normalize.steps) .parent ++
      target.normalize.steps.drop (sharedLength base.normalize.steps target.normalize.steps) := by
  rw [steps_relativeTo fromRoot toRooted, steps_normalize, steps_normalize,
    steps_location_of_rooted fromRoot, steps_location_of_rooted toRooted]
  simp [sharedLength, Location.shared, Location.between, Location.steps]

/-- From the base, the way to an absolute target leads to its normal form. It climbs out of all that the base
does not share with the target, and goes down what is left of the target, so it climbs not at all just if the
target is the base or stands below it. -/
theorem relativeTo_inverse {base target : Path} (fromRoot : base.isRooted) (toRooted : target.isRooted) :
    base.resolve (base.relativeTo target) = target.normalize ∧
    (∃ shared up down, base.normalize.steps = shared ++ up ∧ target.normalize.steps = shared ++ down ∧
      (∀ cs, cs <+: base.normalize.steps → cs <+: target.normalize.steps → cs <+: shared) ∧
      (base.relativeTo target).steps = List.replicate up.length .parent ++ down) ∧
    (.parent ∉ (base.relativeTo target).steps ↔ base.normalize.steps <+: target.normalize.steps) := by
  have leads : base.resolve (base.relativeTo target) = target.normalize := by
    apply normalize_eq_iff.mpr
    rw [← location_normalize (base.join _)]
    exact location_resolve_relativeTo_self fromRoot toRooted
  obtain ⟨shared, up, down, left, right, longest, climb, rest⟩ :=
    exists_parting base.normalize.steps target.normalize.steps
  have way : (base.relativeTo target).steps = List.replicate up.length .parent ++ down := by
    rw [steps_relativeTo_eq fromRoot toRooted, climb, rest]
  refine ⟨leads, ⟨shared, up, down, left, right, longest, way⟩, ?_⟩
  have onlyDown : .parent ∉ down := by
    intro member
    exact parent_notMem_normalize toRooted (by simp [right, member])
  -- A step up can only be one out of the base: the way down has none.
  have climbs : .parent ∉ (base.relativeTo target).steps ↔ up = [] := by
    simp [way, List.mem_replicate, onlyDown]
  rw [climbs]
  constructor
  · intro nothing
    rw [left, right, nothing, List.append_nil]
    exact List.prefix_append ..
  · intro above
    have whole := (longest _ List.prefix_rfl above).length_le
    rw [left, List.length_append] at whole
    exact List.eq_nil_of_length_eq_zero (by omega)

theorem relativeTo_inverse_lib :
    Path.resolve "/proj/app/../src/" (Path.relativeTo "/proj/app/../src/" "/proj/./lib//a.d.ts") =
      "/proj/lib/a.d.ts" ∧
    Step.parent ∈ (Path.relativeTo "/proj/app/../src/" "/proj/./lib//a.d.ts").steps := by
  have holds := @relativeTo_inverse "/proj/app/../src/" "/proj/./lib//a.d.ts" (by decide) (by decide)
  obtain ⟨leads, -, climbs⟩ := holds
  have goal : Path.normalize "/proj/./lib//a.d.ts" = "/proj/lib/a.d.ts" := by decide
  refine ⟨leads.trans goal, ?_⟩
  by_contra level
  exact absurd (climbs.mp level) (by decide)

/-- The root is kept where the shared part would lose it; it is not lost between ways that both begin there. -/
theorem sharedAncestor_eq {as bs : List Step} (alike : as.head? = some .root → bs.head? = some .root) :
    sharedAncestor as bs = as.take (sharedLength as bs) := by
  unfold sharedAncestor
  split
  · rename_i nothing
    obtain ⟨rest, rfl⟩ := List.head?_eq_some_iff.mp (alike rfl)
    simp [sharedLength] at nothing
  · rfl

theorem sharedAncestor_isPrefix (as bs : List Step) : sharedAncestor as bs <+: as := by
  unfold sharedAncestor
  split
  · simp
  · exact List.take_prefix ..

theorem head?_of_isPrefix {as bs : List Step} {c : Step} (above : bs <+: as) (first : bs.head? = some c) :
    as.head? = some c := by
  obtain ⟨rest, rfl⟩ := above
  rw [List.head?_append, first]
  rfl

theorem prefix_foldl_iff {dirs : List Path} {as cs : List Step}
    (alike : as.head? = some .root → ∀ d ∈ dirs, d.location.steps.head? = some .root) :
    cs <+: dirs.foldl (fun a d => sharedAncestor a d.location.steps) as ↔
      cs <+: as ∧ ∀ d ∈ dirs, cs <+: d.location.steps := by
  induction dirs generalizing as with
  | nil => simp
  | cons d dirs ih =>
    have kept : sharedAncestor as d.location.steps = as.take (sharedLength as d.location.steps) :=
      sharedAncestor_eq fun top => alike top d (by simp)
    have later : (sharedAncestor as d.location.steps).head? = some .root →
        ∀ e ∈ dirs, e.location.steps.head? = some .root := fun top e member =>
      alike (head?_of_isPrefix (sharedAncestor_isPrefix ..) top) e (by simp [member])
    rw [List.foldl_cons, ih later, kept, prefix_take_sharedLength_iff]
    simp [and_assoc]

theorem head?_steps_location_iff {p : Path} : p.location.steps.head? = some .root ↔ p.isRooted := by
  constructor
  · intro first
    by_contra relative
    rw [← isRooted_normalize] at relative
    rw [← steps_normalize] at first
    exact root_notMem_steps relative (List.mem_of_mem_head? first)
  · intro rooted
    rw [steps_location_of_rooted rooted]
    rfl

theorem proper_of_mem_normalize {p : Path} {c : Step} (member : c ∈ p.normalize.steps) (notRoot : c ≠ .root) :
    c.Proper := by
  cases c with
  | root => exact notRoot rfl
  | current => exact (reduced_normalize p).noDots member
  | parent => trivial
  | name n => exact isName_of_mem_steps member

theorem steps_ofSteps_of_isPrefix {p : Path} {cs : List Step} (above : cs <+: p.normalize.steps) :
    (ofSteps cs).steps = cs := by
  by_cases rooted : p.isRooted
  · have whole : p.normalize.steps = .root :: p.location.names.map .name := by
      rw [steps_normalize, steps_location_of_rooted rooted]
    cases cs with
    | nil => rfl
    | cons c cs =>
      rw [whole] at above
      obtain ⟨rfl, below⟩ := List.cons_prefix_cons.mp above
      apply steps_ofSteps_root
      intro c member
      obtain ⟨n, inside, rfl⟩ := List.mem_map.mp (below.subset member)
      exact p.location_sound.named n inside
  · apply steps_ofSteps
    intro c member
    apply proper_of_mem_normalize (above.subset member)
    rintro rfl
    rw [← isRooted_normalize] at rooted
    exact root_notMem_steps rooted (above.subset member)

def OneStart (dirs : List Path) : Prop := (∀ d ∈ dirs, d.isRooted) ∨ ∀ d ∈ dirs, ¬d.isRooted

theorem exists_commonAncestor {dirs : List Path} (nonempty : dirs ≠ []) (oneStart : OneStart dirs) :
    ∃ cs, commonAncestor? dirs = some (ofSteps cs) ∧ (ofSteps cs).steps = cs ∧
      ∀ ds, ds <+: cs ↔ ∀ d ∈ dirs, ds <+: d.normalize.steps := by
  obtain ⟨dir, dirs, rfl⟩ := List.exists_cons_of_ne_nil nonempty
  have top : dir.location.steps.head? = some .root → ∀ d ∈ dirs, d.location.steps.head? = some .root := by
    intro first d member
    rw [head?_steps_location_iff] at first ⊢
    rcases oneStart with rooted | relative
    · exact rooted d (by simp [member])
    · exact absurd first (relative dir (by simp))
  let cs := dirs.foldl (fun a d => sharedAncestor a d.location.steps) dir.location.steps
  have greatest (ds : List Step) : ds <+: cs ↔ ∀ d ∈ dir :: dirs, ds <+: d.normalize.steps := by
    simp only [cs, prefix_foldl_iff top, List.forall_mem_cons, steps_normalize]
  have above : cs <+: dir.normalize.steps := (greatest cs).mp List.prefix_rfl dir (by simp)
  exact ⟨cs, rfl, steps_ofSteps_of_isPrefix above, greatest⟩

theorem exists_descend_of_isPrefix {p q : Path} (toRooted : p.isRooted) (fromRoot : q.isRooted)
    (above : q.steps <+: p.normalize.steps) : ∃ ns, p.location = q.location.descend ns := by
  obtain ⟨rest, whole⟩ := above
  have steps : q.steps = .root :: q.pieces.filterMap stepOf := by
    rw [steps_eq, (isRooted_iff q).mp fromRoot]
    rfl
  have names : p.location.names.map .name = q.pieces.filterMap stepOf ++ rest := by
    rw [steps, steps_normalize, steps_location_of_rooted toRooted] at whole
    exact (List.cons.inj whole).2.symm
  obtain ⟨ms, ns, -, -, down⟩ := List.map_eq_append_iff.mp names
  refine ⟨ns, ?_⟩
  calc p.location
    _ = p.normalize.location := p.location_normalize.symm
    _ = q.location.walk rest := by
      rw [location, ← whole, Location.walk_append]
      rfl
    _ = q.location.descend ns := by rw [← down, Location.walk_names]

theorem OneStart.of_normalize {dirs dirs' : List Path} (oneStart : OneStart dirs)
    (same : ∀ q, q ∈ dirs'.map normalize → q ∈ dirs.map normalize) : OneStart dirs' := by
  have known : ∀ d' ∈ dirs', ∃ d ∈ dirs, d'.isRooted = d.isRooted := by
    intro d' member
    obtain ⟨d, inside, form⟩ := List.mem_map.mp (same d'.normalize (List.mem_map_of_mem member))
    refine ⟨d, inside, ?_⟩
    rw [← isRooted_normalize d', ← form, isRooted_normalize]
  rcases oneStart with rooted | relative
  · left
    intro d' member
    obtain ⟨d, inside, form⟩ := known d' member
    rw [form]
    exact rooted d inside
  · right
    intro d' member
    obtain ⟨d, inside, form⟩ := known d' member
    rw [form]
    exact relative d inside

/-- The common ancestor of directories stands above each of them, step by step, and below all else that does.
Nothing but their normal forms decides it, whatever their order and however often each is there. -/
theorem commonAncestor_greatest {dirs : List Path} (nonempty : dirs ≠ []) (oneStart : OneStart dirs) :
    ∃ top, commonAncestor? dirs = some top ∧
      (∀ d ∈ dirs, top.steps <+: d.normalize.steps) ∧
      (∀ cs, (∀ d ∈ dirs, cs <+: d.normalize.steps) → cs <+: top.steps) ∧
      ∀ dirs', (∀ q, q ∈ dirs'.map normalize ↔ q ∈ dirs.map normalize) →
        commonAncestor? dirs' = some top := by
  obtain ⟨cs, found, written, greatest⟩ := exists_commonAncestor nonempty oneStart
  refine ⟨ofSteps cs, found, ?_, ?_, ?_⟩
  · rw [written]
    exact (greatest cs).mp List.prefix_rfl
  · intro ds above
    rw [written]
    exact (greatest ds).mpr above
  · intro dirs' same
    have nonempty' : dirs' ≠ [] := by
      rintro rfl
      obtain ⟨d, rest, rfl⟩ := List.exists_cons_of_ne_nil nonempty
      simpa using same d.normalize
    obtain ⟨ds, found', -, greatest'⟩ := exists_commonAncestor nonempty' (oneStart.of_normalize fun q => (same q).mp)
    have bounds (es : List Step) : es <+: ds ↔ es <+: cs := by
      have forms : (∀ q ∈ dirs'.map normalize, es <+: q.steps) ↔ ∀ q ∈ dirs.map normalize, es <+: q.steps := by
        simp only [same]
      rw [greatest, greatest']
      simpa using forms
    have equal : ds = cs := by
      have below : ds <+: cs := (bounds ds).mp List.prefix_rfl
      exact below.eq_of_length_le ((bounds cs).mpr List.prefix_rfl).length_le
    rw [found', equal]

theorem commonAncestor_greatest_lib :
    commonAncestor? ["../lib/ui/cards", "../lib/views", "../library"] = some ⟨".."⟩ ∧
    commonAncestor? ["../library", "../lib/./views", "../lib/views", "../x/../lib/ui/cards"] = some ⟨".."⟩ := by
  obtain ⟨top, found, -, -, same⟩ :=
    @commonAncestor_greatest ["../lib/ui/cards", "../lib/views", "../library"] (by simp) (.inr (by decide))
  have above : commonAncestor? ["../lib/ui/cards", "../lib/views", "../library"] = some ⟨".."⟩ := by decide
  refine ⟨above, ?_⟩
  rw [← above, found]
  apply same
  have forms : List.map normalize ["../library", "../lib/./views", "../lib/views", "../x/../lib/ui/cards"] =
      ([⟨"../library"⟩, ⟨"../lib/views"⟩, ⟨"../lib/views"⟩, ⟨"../lib/ui/cards"⟩] : List Path) := by decide
  have forms' : List.map normalize ["../lib/ui/cards", "../lib/views", "../library"] =
      ([⟨"../lib/ui/cards"⟩, ⟨"../lib/views"⟩, ⟨"../library"⟩] : List Path) := by decide
  intro q
  rw [forms, forms']
  simp only [List.mem_cons, List.not_mem_nil, or_false]
  tauto

end Path

end DeclBundle
