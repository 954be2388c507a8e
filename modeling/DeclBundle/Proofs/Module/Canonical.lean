import DeclBundle.Proofs.Module.Admission
import DeclBundle.Proofs.Module.Sources

namespace DeclBundle

namespace Path

def IsCanonical (p : Path) : Prop := p.normalize = p

instance (p : Path) : Decidable p.IsCanonical := inferInstanceAs (Decidable (p.normalize = p))

theorem isCanonical_ofSteps {l : Location} (sound : l.Sound) : (ofSteps l.steps).IsCanonical := by
  unfold IsCanonical normalize
  rw [location_ofSteps sound]

theorem isCanonical_normalize (p : Path) : p.normalize.IsCanonical := p.normalize_normalize

theorem IsCanonical.same_iff {p q : Path} (canonical : p.IsCanonical) (canonical' : q.IsCanonical) :
    p.same q ↔ p = q := by
  refine ⟨fun same => ?_, fun same => same ▸ p.same_refl⟩
  have place : p.location = q.location := by
    rw [location, location, Path.same_iff.mp same]
  unfold IsCanonical at canonical canonical'
  rw [← canonical, ← canonical', normalize_eq_iff.mpr place]

theorem text_ofSteps {cs : List Step} (inner : cs ≠ [.root]) :
    (ofSteps cs).text = "/".intercalate (cs.map Step.text) := by
  unfold ofSteps
  split
  · exact absurd rfl inner
  · rfl

theorem exists_text_append {l : Location} (sound : l.Sound) {ending : String}
    (noSlash : '/' ∉ ending.toList) (long : 2 < ending.length) :
    ∃ k : Location, k.Sound ∧ (ofSteps k.steps).text = (ofSteps l.steps).text ++ ending := by
  have named (stem : String) (clean : '/' ∉ stem.toList) : IsName (stem ++ ending) :=
    isName_append_ending clean noSlash long
  -- The ending goes on from the last name, from the last step up, or is a name of its own.
  obtain ⟨rooted, ups, names⟩ := l
  rcases List.eq_nil_or_concat' names with rfl | ⟨ns, n, rfl⟩
  · cases ups with
    | zero =>
      refine ⟨⟨rooted, 0, [ending]⟩, ⟨fun m member => ?_, fun _ => rfl⟩, ?_⟩
      · rw [List.mem_singleton.mp member]
        simpa using named "" (by decide)
      · cases rooted with
        | false =>
          change (ofSteps [.name ending]).text = "" ++ ending
          rw [text_ofSteps (by simp), ← String.toList_inj]
          simp [Step.text]
        | true =>
          change (ofSteps [.root, .name ending]).text = "/" ++ ending
          rw [text_ofSteps (by simp), ← String.toList_inj]
          simp [Step.text]
    | succ u =>
      have relative : rooted = false := by
        cases rooted with
        | false => rfl
        | true => cases sound.top rfl
      have up : (ofSteps (List.replicate u .parent ++ [.parent])).text =
          (ofSteps (List.replicate u .parent ++ [.name ".."])).text := by
        rw [text_ofSteps (by simp [List.append_eq_cons_iff]),
          text_ofSteps (by simp [List.append_eq_cons_iff])]
        simp [Step.text]
      refine ⟨⟨false, u, [".." ++ ending]⟩, ⟨fun m member => ?_, by simp⟩, ?_⟩
      · rw [List.mem_singleton.mp member]
        exact named ".." (by decide)
      · simp only [Location.steps, relative, Bool.false_eq_true, if_false, List.nil_append,
          List.map_nil, List.append_nil, List.map_cons, List.replicate_succ']
        rw [text_ofSteps_concat, up]
  · have longer (m : String) : (⟨rooted, ups, ns ++ [m]⟩ : Location).steps =
        (⟨rooted, ups, ns⟩ : Location).steps ++ [.name m] :=
      Location.steps_descend ⟨rooted, ups, ns⟩ [m]
    refine ⟨⟨rooted, ups, ns ++ [n ++ ending]⟩, ⟨fun m member => ?_, sound.top⟩, ?_⟩
    · rcases List.mem_append.mp member with member | last
      · exact sound.named m (by simp [member])
      · rw [List.mem_singleton.mp last]
        exact named n (sound.named n (by simp)).noSlash
    · rw [longer, longer, text_ofSteps_concat]

theorem isCanonical_append {p : Path} (canonical : p.IsCanonical) {ending : String}
    (noSlash : '/' ∉ ending.toList) (long : 2 < ending.length) :
    IsCanonical ⟨p.text ++ ending⟩ := by
  obtain ⟨k, sound, text⟩ := exists_text_append p.location_sound noSlash long
  have written : (⟨p.text ++ ending⟩ : Path) = ofSteps k.steps := by
    unfold IsCanonical normalize at canonical
    rw [canonical] at text
    rw [← text]
  rw [written]
  exact isCanonical_ofSteps sound

theorem mem_dropLast_splitOn_iff {s n : List Char} (clean : '/' ∉ n) :
    n ∈ (s.splitOn '/').dropLast ↔ '/' :: (n ++ ['/']) <:+: '/' :: s := by
  constructor
  · intro member
    have between (ps : List (List Char)) (inside : n ∈ ps.dropLast) :
        '/' :: (n ++ ['/']) <:+: '/' :: ['/'].intercalate ps := by
      induction ps with
      | nil => cases inside
      | cons p ps ih =>
        cases ps with
        | nil => cases inside
        | cons q ps =>
          rw [List.intercalate_cons_cons]
          rcases List.mem_cons.mp inside with rfl | later
          · exact ⟨[], ['/'].intercalate (q :: ps), by simp⟩
          · obtain ⟨front, back, found⟩ := ih later
            exact ⟨'/' :: p ++ front, back, by simp [← found]⟩
    simpa using between _ member
  · intro found
    obtain ⟨front, back, whole⟩ := found
    have split : (n ++ '/' :: back).splitOn '/' = n :: back.splitOn '/' :=
      List.splitOn_append_cons_self_of_not_mem clean back
    have kept : (n :: back.splitOn '/').dropLast = n :: (back.splitOn '/').dropLast :=
      List.dropLast_cons_of_ne_nil (List.splitOn_ne_nil '/' back)
    cases front with
    | nil =>
      obtain rfl : n ++ '/' :: back = s := by simpa using whole
      rw [split, kept]
      exact List.mem_cons_self
    | cons c front =>
      obtain rfl : front ++ '/' :: (n ++ '/' :: back) = s := by simpa using (List.cons.inj whole).2
      rw [List.splitOn_append_cons_self, split, List.dropLast_append_of_ne_nil (by simp), kept]
      exact List.mem_append_right _ List.mem_cons_self

theorem IsCanonical.eq_ofSteps {p : Path} (canonical : p.IsCanonical) : p = ofSteps p.steps := by
  have steps : p.steps = p.location.steps := by
    have same := steps_normalize p
    rwa [canonical] at same
  rw [steps]
  exact canonical.symm

/-- The directories of a path are the names between two slashes. -/
theorem IsCanonical.mem_dropLast_names_iff {p : Path} (canonical : p.IsCanonical)
    (rooted : p.isRooted) {n : String} (name : IsName n) :
    n ∈ p.location.names.dropLast ↔ '/' :: (n.toList ++ ['/']) <:+: '/' :: p.text.toList := by
  rw [← mem_dropLast_splitOn_iff name.noSlash]
  have top : p.location.rooted := by rwa [rooted_location]
  have steps := Location.steps_of_rooted p.location_sound top
  change _ ↔ n.toList ∈ p.pieces.dropLast
  have written : p = ofSteps (.root :: p.location.names.map .name) := by
    rw [← steps]
    exact canonical.symm
  have named := p.location_sound.named
  generalize p.location.names = names at written named ⊢
  rw [written]
  cases names with
  | nil =>
    have empty : (ofSteps [.root]).pieces = [[], []] := by decide
    simpa [empty] using name.nonempty
  | cons first rest =>
    have proper : ∀ c ∈ (first :: rest).map Step.name, c.Proper := by
      intro c member
      obtain ⟨m, inside, rfl⟩ := List.mem_map.mp member
      exact named m inside
    have last : ([] :: ((first :: rest).map Step.name).map fun c => c.text.toList).dropLast =
        [] :: (first :: rest).dropLast.map String.toList := by
      rw [List.dropLast_cons_of_ne_nil (by simp), List.map_map, ← List.map_dropLast]
      rfl
    rw [pieces_ofSteps_root (by simp) proper, last]
    constructor
    · intro member
      exact List.mem_cons_of_mem _ (List.mem_map.mpr ⟨n, member, rfl⟩)
    · intro member
      rcases List.mem_cons.mp member with empty | member
      · exact absurd (String.toList_eq_nil_iff.mp empty) name.nonempty
      · obtain ⟨m, inside, same⟩ := List.mem_map.mp member
        obtain rfl : m = n := String.toList_inj.mp same
        exact inside

theorem IsCanonical.suffix_fileName {p : Path} (canonical : p.IsCanonical) {n : String}
    (file : p.fileName? = some n) : n.toList <:+ p.text.toList := by
  obtain ⟨cs, last⟩ := fileName?_eq_some_iff.mp file
  have written := canonical.eq_ofSteps
  rw [last] at written
  rw [written]
  have longer := text_ofSteps_concat cs "" n
  rw [String.empty_append] at longer
  rw [longer, String.toList_append]
  exact List.suffix_append ..

theorem IsCanonical.suffix_extension {p : Path} (canonical : p.IsCanonical) {extension : String}
    (extended : p.extension? = some extension) : '.' :: extension.toList <:+ p.text.toList := by
  unfold extension? at extended
  split at extended
  · cases extended
  · rename_i n file
    dsimp only at extended
    split at extended
    · rename_i c d rest dropped
      have dot : c = '.' := by
        have first := List.head?_dropWhile_not (· != '.') n.toList.reverse
        simpa [dropped] using first
      have whole := List.takeWhile_append_dropWhile (p := (· != '.')) (l := n.toList.reverse)
      rw [dropped, dot] at whole
      have parts := congrArg List.reverse whole
      rw [List.reverse_append, List.reverse_reverse, List.reverse_cons, List.append_assoc] at parts
      apply List.IsSuffix.trans _ (canonical.suffix_fileName file)
      rw [← Option.some.inj extended, String.toList_ofList]
      exact ⟨_, parts⟩
    · cases extended

end Path

theorem isCanonical_of_classify {id : String} {root : Path} {a : Admission}
    (admitted : classify id root = some a) : a.logicalPath.IsCanonical := by
  rcases classify_cases admitted with ⟨lang, rfl⟩ | ⟨-, rfl⟩
  · have ending : '/' ∉ ("." ++ lang.extension).toList ∧ 2 < ("." ++ lang.extension).length := by
      cases lang <;> decide
    simp only [Admission.logicalPath, String.append_assoc]
    exact Path.isCanonical_append (Path.isCanonical_normalize _) ending.1 ending.2
  · rw [logicalPath_standalone]
    exact Path.isCanonical_normalize _

end DeclBundle
