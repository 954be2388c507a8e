import DeclBundle.Path.Location
import Mathlib.Data.List.Basic

namespace DeclBundle

structure IsName (n : String) : Prop where
  nonempty : n ≠ ""
  notCurrent : n ≠ "."
  notParent : n ≠ ".."
  noSlash : '/' ∉ n.toList

theorem isName_iff (n : String) : IsName n ↔ n ≠ "" ∧ n ≠ "." ∧ n ≠ ".." ∧ '/' ∉ n.toList :=
  ⟨fun ⟨a, b, c, d⟩ => ⟨a, b, c, d⟩, fun ⟨a, b, c, d⟩ => ⟨a, b, c, d⟩⟩

instance (n : String) : Decidable (IsName n) := decidable_of_iff _ (isName_iff n).symm

theorem isName_append_ending {stem ending : String} (clean : '/' ∉ stem.toList)
    (noSlash : '/' ∉ ending.toList) (long : 2 < ending.length) : IsName (stem ++ ending) := by
  have length : 2 < (stem ++ ending).length := by
    rw [String.length_append]
    omega
  refine ⟨?_, ?_, ?_, by simp [clean, noSlash]⟩
  all_goals
    intro same
    rw [same] at length
    exact absurd length (by decide)

def Step.Proper : Step → Prop
  | .parent => True
  | .name n => IsName n
  | _ => False

namespace Path

theorem same_iff {p q : Path} : p.same q ↔ p.steps = q.steps := by simp [same]

theorem same_refl (p : Path) : p.same p := same_iff.mpr rfl

theorem same_symm {p q : Path} (same : p.same q) : q.same p := same_iff.mpr (same_iff.mp same).symm

theorem same_trans {p q r : Path} (first : p.same q) (second : q.same r) : p.same r :=
  same_iff.mpr ((same_iff.mp first).trans (same_iff.mp second))

def pieces (p : Path) : List (List Char) := p.text.toList.splitOn '/'

def ofPieces (ps : List (List Char)) : Path := ⟨String.ofList (['/'].intercalate ps)⟩

theorem splitOn_cons (c : Char) (s : List Char) :
    (c :: s).splitOn '/' =
      if c = '/' then [] :: s.splitOn '/' else (s.splitOn '/').modifyHead (c :: ·) := by
  simp [List.splitOn_cons_eq_if_modifyHead]

theorem splitOn_eq_cons (s : List Char) : ∃ first rest, s.splitOn '/' = first :: rest :=
  List.exists_cons_of_ne_nil (List.splitOn_ne_nil '/' s)

theorem not_mem_of_mem_splitOn {s piece : List Char} (member : piece ∈ s.splitOn '/') :
    '/' ∉ piece := by
  induction s generalizing piece with
  | nil => simp_all
  | cons c s ih =>
    rw [splitOn_cons] at member
    split at member
    · rcases List.mem_cons.mp member with rfl | member
      · simp
      · exact ih member
    · rename_i notSlash
      obtain ⟨first, rest, parts⟩ := splitOn_eq_cons s
      rw [parts, List.modifyHead_cons] at member
      rcases List.mem_cons.mp member with rfl | member
      · have clean : '/' ∉ first := ih (by simp [parts])
        simp [clean, Ne.symm notSlash]
      · exact ih (by simp [parts, member])

theorem pieces_ne_nil (p : Path) : p.pieces ≠ [] := List.splitOn_ne_nil '/' p.text.toList

theorem noSlash_of_mem_pieces {p : Path} {piece : List Char} (member : piece ∈ p.pieces) :
    '/' ∉ piece := not_mem_of_mem_splitOn member

theorem ofPieces_pieces (p : Path) : ofPieces p.pieces = p := by
  simp [ofPieces, pieces]

theorem pieces_ofPieces {ps : List (List Char)} (nonempty : ps ≠ [])
    (clean : ∀ piece ∈ ps, '/' ∉ piece) : (ofPieces ps).pieces = ps := by
  simp only [ofPieces, pieces, String.toList_ofList]
  exact List.splitOn_intercalate '/' clean nonempty

/-- The anchor and the inner pieces, read off all pieces. -/
def splitPieces : List (List Char) → Anchor × List (List Char)
  | [] :: piece :: rest => (.rooted, piece :: rest)
  | ['.'] :: rest => (.dotted, rest)
  | ps => (.bare, ps)

theorem split_eq (p : Path) : p.split = splitPieces p.pieces := by
  unfold split pieces
  split
  · rename_i body text
    obtain ⟨first, rest, parts⟩ := splitOn_eq_cons body
    simp [text, splitOn_cons, parts, splitPieces]
  · rename_i text
    simp [text, splitOn_cons, splitPieces]
  · rename_i body text
    simp [text, splitOn_cons, splitPieces]
  · rename_i notRooted notDot notDotted
    cases text : p.text.toList with
    | nil => simp [splitPieces]
    | cons c s =>
      have notSlash : c ≠ '/' := fun slash => notRooted s (slash ▸ text)
      obtain ⟨first, rest, parts⟩ := splitOn_eq_cons s
      simp only [splitOn_cons, notSlash, if_false, parts, List.modifyHead_cons]
      unfold splitPieces
      split
      · simp_all
      · -- A first piece that is a dot would have been an anchor.
        rename_i same
        obtain ⟨⟨rfl, rfl⟩, rfl⟩ : (c = '.' ∧ first = []) ∧ rest = _ := by simpa using same
        cases s with
        | nil => exact absurd text notDot
        | cons d s =>
          by_cases slash : d = '/'
          · exact absurd (slash ▸ text) (notDotted s)
          · obtain ⟨next, others, parts'⟩ := splitOn_eq_cons s
            simp [splitOn_cons, slash, parts'] at parts
      · rfl

theorem isRooted_iff (p : Path) : p.isRooted ↔ (splitPieces p.pieces).1 = .rooted := by
  rw [← split_eq]
  unfold isRooted split
  split
  · simp_all
  · simp_all
  · simp_all
  · rename_i notRooted _ _
    cases text : p.text.toList with
    | nil => simp
    | cons c s => simpa using fun slash : c = '/' => notRooted s (slash ▸ text)

theorem filterMap_splitPieces (ps : List (List Char)) :
    (splitPieces ps).2.filterMap stepOf = ps.filterMap stepOf := by
  unfold splitPieces
  split <;> simp [stepOf, isVoid]

theorem steps_eq (p : Path) :
    p.steps = (splitPieces p.pieces).1.steps ++ p.pieces.filterMap stepOf := by
  unfold steps
  rw [split_eq, ← filterMap_splitPieces]

theorem stepOf_text {c : Step} (proper : c.Proper) : stepOf c.text.toList = some c := by
  cases c with
  | root => exact proper.elim
  | current => exact proper.elim
  | parent => rfl
  | name n =>
    have void : isVoid n.toList = false := by
      simp only [isVoid, Bool.or_eq_false_iff, decide_eq_false_iff_not]
      exact ⟨fun h => proper.nonempty (String.toList_inj.mp h),
        fun h => proper.notCurrent (String.toList_inj.mp h)⟩
    have up : n.toList ≠ ['.', '.'] := fun h => proper.notParent (String.toList_inj.mp h)
    simp [stepOf, Step.text, void, up]

theorem exists_stepOf {piece : List Char} (notVoid : isVoid piece = false) :
    ∃ c, stepOf piece = some c := by
  unfold stepOf
  rw [notVoid, if_neg (by decide)]
  split <;> exact ⟨_, rfl⟩

theorem proper_of_stepOf {piece : List Char} {c : Step} (clean : '/' ∉ piece)
    (step : stepOf piece = some c) : c.Proper := by
  unfold stepOf at step
  split at step
  · contradiction
  · rename_i notVoid
    split at step
    · cases step
      trivial
    · rename_i notParent
      cases step
      simp only [isVoid, Bool.or_eq_true, decide_eq_true_eq, not_or] at notVoid
      refine ⟨?_, ?_, ?_, by simpa using clean⟩
      · exact fun h => notVoid.1 (by simpa using congrArg String.toList h)
      · exact fun h => notVoid.2 (by simpa using congrArg String.toList h)
      · exact fun h => notParent (by simpa using congrArg String.toList h)

theorem proper_of_mem_pieces {p : Path} {c : Step} (member : c ∈ p.pieces.filterMap stepOf) :
    c.Proper := by
  obtain ⟨piece, inside, step⟩ := List.mem_filterMap.mp member
  exact proper_of_stepOf (noSlash_of_mem_pieces inside) step

theorem isName_of_mem_steps {p : Path} {n : String} (member : .name n ∈ p.steps) : IsName n := by
  rw [steps_eq] at member
  rcases List.mem_append.mp member with anchor | inner
  · cases h : (splitPieces p.pieces).1 <;> simp [h, Anchor.steps] at anchor
  · exact proper_of_mem_pieces inner

theorem noSlash_text {c : Step} (proper : c.Proper) : '/' ∉ c.text.toList := by
  cases c with
  | root => exact proper.elim
  | current => exact proper.elim
  | parent => decide
  | name n => exact proper.noSlash

theorem filterMap_stepOf_texts {cs : List Step} (proper : ∀ c ∈ cs, c.Proper) :
    (cs.map fun c => c.text.toList).filterMap stepOf = cs := by
  induction cs with
  | nil => rfl
  | cons c cs ih =>
    have first := stepOf_text (proper c (by simp))
    have rest := ih fun c member => proper c (by simp [member])
    simp [first, rest]

theorem intercalate_texts (cs : List Step) :
    (⟨"/".intercalate (cs.map Step.text)⟩ : Path) = ofPieces (cs.map fun c => c.text.toList) := by
  simp [ofPieces, ← String.toList_inj, Function.comp_def]

theorem splitPieces_texts {cs : List Step} (proper : ∀ c ∈ cs, c.Proper) :
    splitPieces (cs.map fun c => c.text.toList) = (.bare, cs.map fun c => c.text.toList) := by
  cases cs with
  | nil => rfl
  | cons c cs =>
    have step := stepOf_text (proper c (by simp))
    rw [List.map_cons]
    unfold splitPieces
    split <;> simp_all [stepOf, isVoid]

theorem steps_ofSteps {cs : List Step} (proper : ∀ c ∈ cs, c.Proper) : (ofSteps cs).steps = cs := by
  have written : ofSteps cs = ofPieces (cs.map fun c => c.text.toList) := by
    rw [← intercalate_texts]
    unfold ofSteps
    split
    · exact (proper .root (by simp)).elim
    · rfl
  rw [written]
  cases cs with
  | nil => rfl
  | cons c cs =>
    have clean : ∀ piece ∈ (c :: cs).map (fun c => c.text.toList), '/' ∉ piece := by
      intro piece member
      obtain ⟨c, inside, rfl⟩ := List.mem_map.mp member
      exact noSlash_text (proper c inside)
    rw [steps_eq, pieces_ofPieces (by simp) clean, splitPieces_texts proper,
      filterMap_stepOf_texts proper]
    rfl

theorem pieces_ofSteps_root {cs : List Step} (some : cs ≠ []) (proper : ∀ c ∈ cs, c.Proper) :
    (ofSteps (.root :: cs)).pieces = [] :: cs.map fun c => c.text.toList := by
  have written : ofSteps (.root :: cs) = ofPieces ([] :: cs.map fun c => c.text.toList) := by
    cases cs with
    | nil => exact absurd rfl some
    | cons c cs => exact intercalate_texts (.root :: c :: cs)
  have clean : ∀ piece ∈ [] :: cs.map (fun c => c.text.toList), '/' ∉ piece := by
    intro piece member
    rcases List.mem_cons.mp member with rfl | member
    · simp
    · obtain ⟨c, inside, rfl⟩ := List.mem_map.mp member
      exact noSlash_text (proper c inside)
  rw [written, pieces_ofPieces (by simp) clean]

theorem steps_ofSteps_root {cs : List Step} (proper : ∀ c ∈ cs, c.Proper) :
    (ofSteps (.root :: cs)).steps = .root :: cs := by
  cases cs with
  | nil => rfl
  | cons c cs =>
    rw [steps_eq, pieces_ofSteps_root (by simp) proper]
    rw [List.filterMap_cons_none (by rfl), filterMap_stepOf_texts proper]
    rfl

theorem root_mem_steps {p : Path} (rooted : p.isRooted) : .root ∈ p.steps := by
  rw [steps_eq, (isRooted_iff p).mp rooted]
  simp [Anchor.steps]

theorem root_notMem_steps {p : Path} (relative : ¬p.isRooted) : .root ∉ p.steps := by
  rw [steps_eq]
  intro member
  rcases List.mem_append.mp member with anchor | inner
  · cases top : (splitPieces p.pieces).1 with
    | rooted => exact relative ((isRooted_iff p).mpr top)
    | dotted => simp [top, Anchor.steps] at anchor
    | bare => simp [top, Anchor.steps] at anchor
  · exact proper_of_mem_pieces inner

theorem relative_ofSteps {cs : List Step} (proper : ∀ c ∈ cs, c.Proper) : ¬(ofSteps cs).isRooted := by
  intro rooted
  have top := root_mem_steps rooted
  rw [steps_ofSteps proper] at top
  exact proper .root top

theorem join_of_rooted (base : Path) {p : Path} (rooted : p.isRooted) : base.join p = p := if_pos rooted

theorem join_of_empty {base : Path} (empty : base.text = "") (p : Path) : base.join p = p := by
  unfold join
  split
  · rfl
  · simp [empty]

theorem join_of_slash {base p : Path} (relative : ¬p.isRooted)
    (slash : base.text.toList.getLast? = some '/') : base.join p = ⟨base.text ++ p.text⟩ := by
  unfold join
  rw [if_neg relative, if_pos (by simp [slash])]

theorem join_of_noSlash {base p : Path} (relative : ¬p.isRooted) (nonempty : base.text ≠ "")
    (noSlash : base.text.toList.getLast? ≠ some '/') : base.join p = ⟨base.text ++ "/" ++ p.text⟩ := by
  unfold join
  rw [if_neg relative, if_neg (by simp [nonempty, noSlash])]

theorem exists_join_eq {base : Path} (nonempty : base.text ≠ "") :
    ∃ front : String, (base.text = front ∨ base.text = front ++ "/") ∧
      ∀ p : Path, ¬p.isRooted → base.join p = ⟨front ++ "/" ++ p.text⟩ := by
  by_cases slash : base.text.toList.getLast? = some '/'
  · obtain ⟨front, whole⟩ := List.getLast?_eq_some_iff.mp slash
    have text : base.text = String.ofList front ++ "/" := by simp [← String.toList_inj, whole]
    refine ⟨String.ofList front, .inr text, fun p relative => ?_⟩
    rw [join_of_slash relative slash, text]
  · exact ⟨base.text, .inl rfl, fun p relative => join_of_noSlash relative nonempty slash⟩

/-- What is joined to a path adds its pieces to those of the path, of which an empty one behind a slash is
left out. -/
theorem exists_pieces_join (base : Path) :
    ∃ front, (base.pieces = front ∨ base.pieces = front ++ [[]]) ∧
      ∀ p : Path, ¬p.isRooted → (base.join p).pieces = front ++ p.pieces := by
  by_cases empty : base.text = ""
  · refine ⟨[], .inr (by simp [pieces, empty]), fun p _ => ?_⟩
    rw [join_of_empty empty, List.nil_append]
  · obtain ⟨front, text, joined⟩ := exists_join_eq empty
    refine ⟨front.toList.splitOn '/', ?_, fun p relative => ?_⟩
    · rcases text with text | text
      · exact .inl (by rw [pieces, text])
      · exact .inr (by simp [pieces, text, List.splitOn_append_cons_self])
    · rw [joined p relative]
      simp [pieces, List.splitOn_append_cons_self]

theorem filterMap_pieces_join (base : Path) {p : Path} (relative : ¬p.isRooted) :
    (base.join p).pieces.filterMap stepOf =
      base.pieces.filterMap stepOf ++ p.pieces.filterMap stepOf := by
  obtain ⟨front, own, joined⟩ := exists_pieces_join base
  rw [joined p relative, List.filterMap_append]
  rcases own with own | own
  · rw [own]
  · simp [own, stepOf, isVoid]

theorem anchor_append {front : List (List Char)} (some : front ≠ []) (notEmpty : front ≠ [[]])
    (rest : List (List Char)) : (splitPieces (front ++ rest)).1 = (splitPieces front).1 := by
  rcases front with - | ⟨first, - | ⟨second, more⟩⟩
  · exact absurd rfl some
  · have char : first ≠ [] := fun none => notEmpty (none ▸ rfl)
    unfold splitPieces
    split <;> split <;> simp_all
  · unfold splitPieces
    split <;> split <;> simp_all

theorem text_eq_of_pieces {p : Path} (empty : p.pieces = [[]]) : p.text = "" := by
  rw [← ofPieces_pieces p, empty]
  rfl

theorem anchor_join {base p : Path} (relative : ¬p.isRooted) (nonempty : base.text ≠ "") :
    (splitPieces (base.join p).pieces).1 = (splitPieces base.pieces).1 := by
  obtain ⟨front, own, joined⟩ := exists_pieces_join base
  have notEmpty : base.pieces ≠ [[]] := fun empty => nonempty (text_eq_of_pieces empty)
  rw [joined p relative]
  rcases own with own | own
  · rw [own] at notEmpty ⊢
    exact anchor_append (own ▸ pieces_ne_nil base) notEmpty _
  · by_cases slash : front = [[]]
    · -- The base is a lone slash.
      obtain ⟨first, rest, parts⟩ := splitOn_eq_cons p.text.toList
      rw [own, slash, pieces, parts]
      rfl
    · have some : front ≠ [] := by
        rintro rfl
        exact notEmpty own
      rw [own, anchor_append some slash, anchor_append some slash]

theorem isRooted_join {base p : Path} (relative : ¬p.isRooted) (nonempty : base.text ≠ "") :
    (base.join p).isRooted = base.isRooted := by
  rw [Bool.eq_iff_iff, isRooted_iff, isRooted_iff, anchor_join relative nonempty]

theorem text_ne_of_rooted {p : Path} (rooted : p.isRooted) : p.text ≠ "" := by
  intro empty
  simp [isRooted, empty] at rooted

theorem steps_join_of_nonempty {base p : Path} (relative : ¬p.isRooted) (nonempty : base.text ≠ "") :
    (base.join p).steps = base.steps ++ p.pieces.filterMap stepOf := by
  rw [steps_eq, steps_eq base, anchor_join relative nonempty, filterMap_pieces_join base relative,
    List.append_assoc]

theorem steps_join {base p : Path} (rooted : base.isRooted) (relative : ¬p.isRooted) :
    (base.join p).steps = base.steps ++ p.pieces.filterMap stepOf :=
  steps_join_of_nonempty relative (text_ne_of_rooted rooted)

end Path

end DeclBundle
