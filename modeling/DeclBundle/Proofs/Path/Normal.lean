import DeclBundle.Proofs.Path.Location
import Mathlib.Logic.Relation

namespace DeclBundle

inductive Shortens : List Step → List Step → Prop where
  | current (front back : List Step) : Shortens (front ++ .current :: back) (front ++ back)
  | cancel (front back : List Step) (n : String) :
    Shortens (front ++ .name n :: .parent :: back) (front ++ back)
  | top (front back : List Step) :
    Shortens (front ++ .root :: .parent :: back) (front ++ .root :: back)

namespace Location

theorem walk_cons (l : Location) (c : Step) (cs : List Step) : l.walk (c :: cs) = (l.go c).walk cs := rfl

theorem walk_of_shortens {cs ds : List Step} (shortens : Shortens cs ds) (l : Location) :
    l.walk cs = l.walk ds := by
  cases shortens with
  | current front back =>
    rw [walk_append, walk_append, walk_cons]
    rfl
  | cancel front back n =>
    have back' (k : Location) : (k.go (.name n)).go .parent = k := by simp [go]
    rw [walk_append, walk_append, walk_cons, walk_cons, back']
  | top front back =>
    rw [walk_append, walk_append, walk_cons, walk_cons]
    rfl

theorem walk_of_eqvGen {cs ds : List Step} (alike : Relation.EqvGen Shortens cs ds) (l : Location) :
    l.walk cs = l.walk ds := by
  induction alike with
  | rel cs ds shortens => exact walk_of_shortens shortens l
  | refl cs => rfl
  | symm cs ds _ ih => exact ih.symm
  | trans cs ds es _ _ first second => exact first.trans second

theorem reaches_go {l : Location} (sound : l.Sound) {c : Step} (notRoot : c ≠ .root) (back : List Step) :
    Relation.ReflTransGen Shortens (l.steps ++ c :: back) ((l.go c).steps ++ back) := by
  cases c with
  | root => exact absurd rfl notRoot
  | current => exact .single (.current l.steps back)
  | name n =>
    have further : (l.go (.name n)).steps = l.steps ++ [.name n] := steps_descend l [n]
    rw [further, List.append_assoc]
    exact .refl
  | parent =>
    obtain ⟨rooted, ups, names⟩ := l
    rcases List.eq_nil_or_concat' names with rfl | ⟨ns, n, rfl⟩
    · cases rooted with
      | true =>
        obtain rfl : ups = 0 := sound.top rfl
        exact .single (.top [] back)
      | false =>
        have further : (go ⟨false, ups, []⟩ .parent).steps = (steps ⟨false, ups, []⟩) ++ [.parent] := by
          simp [go, steps, List.replicate_succ']
        rw [further, List.append_assoc]
        exact .refl
    · have above : (go ⟨rooted, ups, ns ++ [n]⟩ .parent) = ⟨rooted, ups, ns⟩ := by simp [go]
      have further : steps ⟨rooted, ups, ns ++ [n]⟩ = steps ⟨rooted, ups, ns⟩ ++ [.name n] :=
        steps_descend ⟨rooted, ups, ns⟩ [n]
      rw [above, further, List.append_assoc]
      exact .single (.cancel _ back n)

theorem reaches_walk {l : Location} (sound : l.Sound) {cs : List Step} (proper : ∀ c ∈ cs, c.Proper) :
    Relation.ReflTransGen Shortens (l.steps ++ cs) (l.walk cs).steps := by
  induction cs generalizing l with
  | nil =>
    rw [List.append_nil]
    exact .refl
  | cons c cs ih =>
    have own : c.Proper := proper c (by simp)
    have notRoot : c ≠ .root := by
      rintro rfl
      exact own
    have named : ∀ n, c = .name n → IsName n := by
      rintro n rfl
      exact own
    have rest := ih (go_sound sound named) fun d member => proper d (by simp [member])
    exact (reaches_go sound notRoot cs).trans rest

end Location

namespace Path

/-- A path in which nothing is left out of the way: no dot, and steps up only at the front of a relative path. -/
structure Reduced (p : Path) : Prop where
  noDots : .current ∉ p.steps
  leading : ∀ front back, p.steps = front ++ .parent :: back → ∀ c ∈ front, c = .parent
  relative : .parent ∈ p.steps → ¬p.isRooted

theorem reaches_normalize (p : Path) : Relation.ReflTransGen Shortens p.steps p.normalize.steps := by
  have proper : ∀ c ∈ p.pieces.filterMap stepOf, c.Proper := fun c => proper_of_mem_pieces
  have fromRoot := Location.reaches_walk (l := .root) ⟨by simp [Location.root], by simp [Location.root]⟩ proper
  have fromStart := Location.reaches_walk (l := .start) ⟨by simp [Location.start], by simp [Location.start]⟩ proper
  rw [steps_normalize, location_eq, steps_eq]
  cases anchor : (splitPieces p.pieces).1 with
  | rooted =>
    rw [if_pos ((isRooted_iff p).mpr anchor)]
    exact fromRoot
  | dotted =>
    have relative : ¬p.isRooted := by simp [isRooted_iff, anchor]
    rw [if_neg relative]
    exact .head (.current [] _) fromStart
  | bare =>
    have relative : ¬p.isRooted := by simp [isRooted_iff, anchor]
    rw [if_neg relative]
    exact fromStart

theorem reduced_normalize (p : Path) : p.normalize.Reduced := by
  have sound := p.location_sound
  have noParent (names : List String) : .parent ∉ names.map Step.name := by simp
  refine ⟨?_, ?_, ?_⟩
  · rw [steps_normalize]
    simp [Location.steps]
  · intro front back parts c member
    rw [steps_normalize] at parts
    cases rooted : p.location.rooted with
    | true =>
      rw [Location.steps_of_rooted sound rooted] at parts
      have inside : Step.parent ∈ Step.root :: p.location.names.map .name := by simp [parts]
      simp at inside
    | false =>
      simp only [Location.steps, rooted, Bool.false_eq_true, if_false, List.nil_append] at parts
      rcases List.append_eq_append_iff.mp parts with ⟨more, -, names⟩ | ⟨more, ups, -⟩
      · exact absurd (names ▸ by simp) (noParent p.location.names)
      · have up : c ∈ List.replicate p.location.ups Step.parent := by simp [ups, member]
        exact List.eq_of_mem_replicate up
  · intro member rooted
    rw [isRooted_normalize, ← rooted_location] at rooted
    rw [steps_normalize, Location.steps_of_rooted sound rooted] at member
    simp at member

theorem Reduced.not_shortens {p : Path} (reduced : p.Reduced) (ds : List Step) : ¬Shortens p.steps ds := by
  intro shortens
  generalize parts : p.steps = cs at shortens
  cases shortens with
  | current front back => exact reduced.noDots (by simp [parts])
  | cancel front back n =>
    have leading := reduced.leading (front ++ [.name n]) back (by simp [parts])
    cases leading (.name n) (by simp)
  | top front back =>
    have leading := reduced.leading (front ++ [.root]) back (by simp [parts])
    cases leading .root (by simp)

theorem Reduced.same_normalize {p : Path} (reduced : p.Reduced) : p.normalize.same p := by
  rw [same_iff]
  rcases (reaches_normalize p).cases_head with same | ⟨ds, first, -⟩
  · exact same.symm
  · exact absurd first (reduced.not_shortens ds)

theorem Reduced.of_same {p q : Path} (reduced : p.Reduced) (same : q.same p) : q.Reduced := by
  have steps := same_iff.mp same
  have rooted : q.isRooted = p.isRooted := by
    rw [← rooted_location, ← rooted_location, location, location, steps]
  refine ⟨?_, ?_, ?_⟩
  · rw [steps]
    exact reduced.noDots
  · rw [steps]
    exact reduced.leading
  · rw [steps, rooted]
    exact reduced.relative

theorem reduced_iff (p : Path) : p.Reduced ↔ p.normalize.same p :=
  ⟨Reduced.same_normalize, fun same => p.reduced_normalize.of_same (same_symm same)⟩

theorem normalize_eq_iff_eqvGen (p q : Path) :
    p.normalize = q.normalize ↔ Relation.EqvGen Shortens p.steps q.steps := by
  have toNormal (p : Path) := Relation.EqvGen.reflTransGen_le_eqvGen Shortens _ _ p.reaches_normalize
  constructor
  · intro same
    have rest := (toNormal q).symm
    rw [← same] at rest
    exact (toNormal p).trans _ _ _ rest
  · intro alike
    exact normalize_eq_iff.mpr (Location.walk_of_eqvGen alike .start)

theorem normalize_join (base p : Path) : (base.normalize.join p).normalize = (base.join p).normalize := by
  rw [normalize_eq_iff, location_join, location_join, location_normalize]

/-- Normalising ends in a reduced path, which changes no more and is as absolute as the path was, and it begins
with the base as well as with the whole path. The reduced paths are the normal ones, and what two paths have one
normal form for is what leads from one to the other by steps that say nothing. -/
theorem normalize_canonical (p : Path) :
    (p.normalize.Reduced ∧ p.normalize.isRooted = p.isRooted ∧ p.normalize.normalize = p.normalize) ∧
    (∀ base : Path, (base.join p).normalize = (base.normalize.join p).normalize) ∧
    (p.Reduced ↔ p.normalize.same p) ∧
    (∀ q : Path, p.normalize = q.normalize ↔ Relation.EqvGen Shortens p.steps q.steps) :=
  ⟨⟨p.reduced_normalize, p.isRooted_normalize, p.normalize_normalize⟩,
    fun base => (base.normalize_join p).symm, p.reduced_iff, p.normalize_eq_iff_eqvGen⟩

end Path

end DeclBundle
