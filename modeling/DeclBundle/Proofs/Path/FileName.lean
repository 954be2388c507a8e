import DeclBundle.Proofs.Path.Relative
import Mathlib.Data.List.DropRight

namespace DeclBundle

namespace Path

theorem trimPieces_eq (ps : List (List Char)) : trimPieces ps = ps.rdropWhile isVoid := rfl

theorem trimPieces_isPrefix (ps : List (List Char)) : trimPieces ps <+: ps :=
  List.rdropWhile_prefix isVoid ps

theorem filterMap_trimPieces (ps : List (List Char)) :
    (trimPieces ps).filterMap stepOf = ps.filterMap stepOf := by
  rw [trimPieces_eq]
  induction ps using List.reverseRecOn with
  | nil => rfl
  | append_singleton ps piece ih =>
    rw [List.rdropWhile_concat]
    split
    · rename_i void
      simp [ih, stepOf, void]
    · rfl

theorem trimPieces_cases (ps : List (List Char)) :
    trimPieces ps = [] ∨ ∃ front piece, trimPieces ps = front ++ [piece] ∧ isVoid piece = false := by
  rcases List.eq_nil_or_concat (trimPieces ps) with none | ⟨front, piece, last⟩
  · exact .inl none
  · rw [List.concat_eq_append] at last
    refine .inr ⟨front, piece, last, ?_⟩
    have some : ps.rdropWhile isVoid ≠ [] := by simp [← trimPieces_eq, last]
    have kept := List.rdropWhile_last_not isVoid ps some
    simpa [← trimPieces_eq, last] using kept

theorem splitPieces_of_prefix {ps qs : List (List Char)} (bare : splitPieces ps = (.bare, ps))
    (front : qs <+: ps) : splitPieces qs = (.bare, qs) := by
  obtain ⟨rest, rfl⟩ := front
  unfold splitPieces at bare ⊢
  split
  · simp at bare
  · simp at bare
  · rfl

theorem splitPieces_bare {ps inner : List (List Char)} (split : splitPieces ps = (.bare, inner)) :
    inner = ps := by
  unfold splitPieces at split
  split at split <;> simp_all

theorem steps_write {anchor : Anchor} {ps : List (List Char)} (clean : ∀ piece ∈ ps, '/' ∉ piece)
    (bare : anchor = .bare → splitPieces ps = (.bare, ps)) :
    (⟨String.ofList (anchor.write ps)⟩ : Path).steps = anchor.steps ++ ps.filterMap stepOf := by
  cases ps with
  | nil => cases anchor <;> rfl
  | cons piece rest =>
    have withFirst (first : List Char) (noSlash : '/' ∉ first) :
        ∀ piece' ∈ first :: piece :: rest, '/' ∉ piece' := by
      intro piece' member
      rcases List.mem_cons.mp member with rfl | member
      · exact noSlash
      · exact clean _ member
    cases anchor with
    | rooted =>
      have written : (⟨String.ofList (Anchor.rooted.write (piece :: rest))⟩ : Path) =
          ofPieces ([] :: piece :: rest) := by simp [Anchor.write, ofPieces]
      rw [written, steps_eq, pieces_ofPieces (by simp) (withFirst [] (by simp))]
      simp [splitPieces, Anchor.steps, stepOf, isVoid]
    | dotted =>
      have written : (⟨String.ofList (Anchor.dotted.write (piece :: rest))⟩ : Path) =
          ofPieces (['.'] :: piece :: rest) := by simp [Anchor.write, ofPieces]
      rw [written, steps_eq, pieces_ofPieces (by simp) (withFirst ['.'] (by simp))]
      simp [splitPieces, Anchor.steps, stepOf, isVoid]
    | bare =>
      have written : (⟨String.ofList (Anchor.bare.write (piece :: rest))⟩ : Path) =
          ofPieces (piece :: rest) := rfl
      rw [written, steps_eq, pieces_ofPieces (by simp) clean, bare rfl]

theorem parent?_of_steps {p : Path} {cs : List Step} {c : Step} (last : p.steps = cs ++ [c])
    (notRoot : c ≠ .root) : ∃ d, p.parent? = some d ∧ d.steps = cs := by
  obtain ⟨anchor, ps, parts⟩ : ∃ anchor ps, splitPieces p.pieces = (anchor, ps) := ⟨_, _, rfl⟩
  have inner : ps.filterMap stepOf = p.pieces.filterMap stepOf := by
    simpa [parts] using filterMap_splitPieces p.pieces
  have inside : ∀ piece ∈ ps, piece ∈ p.pieces := by
    intro piece member
    unfold splitPieces at parts
    split at parts <;> simp_all
  rw [steps_eq, parts, ← inner, ← filterMap_trimPieces] at last
  simp only [parent?, split_eq, parts]
  rcases trimPieces_cases ps with none | ⟨front, piece, shown, notVoid⟩
  · -- Nothing is left but the anchor, so the last step is that of a leading dot.
    rw [none, List.filterMap_nil, List.append_nil] at last
    cases anchor with
    | rooted => simp_all [Anchor.steps, List.cons_eq_append_iff]
    | dotted =>
      obtain ⟨rfl, -⟩ : cs = [] ∧ _ := by simpa [Anchor.steps, List.cons_eq_append_iff] using last
      exact ⟨"", by simp [none], rfl⟩
    | bare => simp [Anchor.steps] at last
  · have frontOf : front <+: ps := (shown ▸ List.prefix_append ..).trans (trimPieces_isPrefix ps)
    have kept : trimPieces front <+: ps := (trimPieces_isPrefix front).trans frontOf
    have bare : anchor = .bare → splitPieces (trimPieces front) = (.bare, trimPieces front) := by
      rintro rfl
      have whole := splitPieces_bare parts
      exact splitPieces_of_prefix (whole ▸ parts) kept
    have clean : ∀ piece ∈ trimPieces front, '/' ∉ piece := fun piece member =>
      noSlash_of_mem_pieces (inside piece (kept.subset member))
    obtain ⟨d, step⟩ := exists_stepOf notVoid
    have same : anchor.steps ++ front.filterMap stepOf = cs := by
      rw [shown, List.filterMap_append, ← List.append_assoc] at last
      simp only [List.filterMap_cons, step, List.filterMap_nil] at last
      exact (List.append_inj' last rfl).1
    refine ⟨⟨String.ofList (anchor.write (trimPieces front))⟩, by simp [shown], ?_⟩
    rw [steps_write clean bare, filterMap_trimPieces, same]

theorem fileName?_eq_some_iff {p : Path} {n : String} :
    p.fileName? = some n ↔ ∃ cs, p.steps = cs ++ [.name n] := by
  unfold fileName?
  rw [← List.getLast?_eq_some_iff]
  split <;> simp_all

theorem isName_of_fileName? {p : Path} {n : String} (file : p.fileName? = some n) : IsName n := by
  obtain ⟨cs, last⟩ := fileName?_eq_some_iff.mp file
  exact isName_of_mem_steps (p := p) (by simp [last])

theorem parent?_of_fileName? {p : Path} {n : String} (file : p.fileName? = some n) :
    ∃ d, p.parent? = some d ∧ p.steps = d.steps ++ [.name n] ∧
      p.location = d.location.descend [n] := by
  obtain ⟨cs, last⟩ := fileName?_eq_some_iff.mp file
  obtain ⟨d, parent, same⟩ := parent?_of_steps last (by simp)
  refine ⟨d, parent, by rw [same, last], ?_⟩
  unfold location
  rw [last, Location.walk_append, same]
  exact Location.walk_names _ [n]

theorem steps_ofName {n : String} (name : IsName n) : (⟨n⟩ : Path).steps = [.name n] := by
  have written : (⟨n⟩ : Path) = ofSteps [.name n] := by
    simp [ofSteps, Step.text]
  rw [written]
  exact steps_ofSteps fun c member => List.mem_singleton.mp member ▸ name

theorem pieces_ofName {n : String} (name : IsName n) : (⟨n⟩ : Path).pieces = [n.toList] := by
  have single : (⟨n⟩ : Path) = ofPieces [n.toList] := by simp [ofPieces]
  rw [single, pieces_ofPieces (by simp) (by simpa using name.noSlash)]

theorem filterMap_pieces_ofName {n : String} (name : IsName n) :
    (⟨n⟩ : Path).pieces.filterMap stepOf = [n].map .name := by
  have own : stepOf n.toList = some (.name n) := stepOf_text (c := .name n) name
  rw [pieces_ofName name, List.filterMap_cons_some own]
  rfl

theorem relative_ofName {n : String} (name : IsName n) : ¬(⟨n⟩ : Path).isRooted := by
  intro rooted
  have first : '/' ∈ n.toList := List.mem_of_mem_head? (by simpa [isRooted] using rooted)
  exact name.noSlash first

theorem location_join_name (base : Path) {n : String} (name : IsName n) :
    (base.join ⟨n⟩).location = base.location.descend [n] := by
  rw [location_join, if_neg (relative_ofName name), steps_ofName name]
  exact Location.walk_names _ [n]

theorem steps_join_name (base : Path) {n : String} (name : IsName n) :
    (base.join ⟨n⟩).steps = base.steps ++ [.name n] := by
  by_cases empty : base.text = ""
  · have nowhere : base.steps = [] := by
      simp [steps, split, empty, Anchor.steps, stepOf, isVoid]
    rw [join_of_empty empty, nowhere, steps_ofName name, List.nil_append]
  · rw [steps_join_of_nonempty (relative_ofName name) empty, filterMap_pieces_ofName name]
    rfl

theorem fileName?_join_name (base : Path) {n : String} (name : IsName n) :
    (base.join ⟨n⟩).fileName? = some n :=
  fileName?_eq_some_iff.mpr ⟨base.steps, steps_join_name base name⟩

theorem extension?_eq_some_iff {p : Path} {ending : String} (dotless : '.' ∉ ending.toList) :
    p.extension? = some ending ↔ ∃ n, p.fileName? = some n ∧ n.toList ≠ '.' :: ending.toList ∧
      '.' :: ending.toList <:+ n.toList := by
  unfold extension?
  cases p.fileName? with
  | none => simp
  | some n =>
    simp only [Option.some.injEq, exists_eq_left']
    constructor
    · intro found
      split at found
      · rename_i dot first rest dropped
        have dotted : dot = '.' := by
          have stop := List.head?_dropWhile_not (· != '.') n.toList.reverse
          rw [dropped] at stop
          simpa using stop
        have parts := List.takeWhile_append_dropWhile (p := (· != '.')) (l := n.toList.reverse)
        have kept : (n.toList.reverse.takeWhile (· != '.')).reverse = ending.toList := by
          rw [← Option.some.inj found, String.toList_ofList]
        have whole : n.toList = (first :: rest).reverse ++ '.' :: ending.toList := by
          rw [← List.reverse_reverse n.toList, ← parts, dropped, dotted, ← kept]
          simp
        refine ⟨fun same => ?_, ⟨_, whole.symm⟩⟩
        have longer := congrArg List.length (whole.symm.trans same)
        simp at longer
        omega
      · cases found
    · rintro ⟨more, front, whole⟩
      have inner : ∀ c ∈ ending.toList.reverse, (c != '.') = true := fun c member =>
        bne_iff_ne.mpr fun same => dotless (same ▸ List.mem_reverse.mp member)
      have turned : n.toList.reverse = ending.toList.reverse ++ '.' :: front.reverse := by
        rw [← whole]
        simp
      rw [turned, List.dropWhile_append_of_pos inner, List.takeWhile_append_of_pos inner]
      cases before : front.reverse with
      | nil =>
        obtain rfl : front = [] := List.reverse_eq_nil_iff.mp before
        exact absurd whole.symm more
      | cons first rest => simp

theorem parent?_of_location {p : Path} (normal : p.steps = p.location.steps) {l : Location}
    {ns : List String} {n : String} (place : p.location = l.descend (ns ++ [n])) :
    p.fileName? = some n ∧ ∃ d, p.parent? = some d ∧ d.location = l.descend ns := by
  have file : p.fileName? = some n := by
    apply fileName?_eq_some_iff.mpr
    refine ⟨l.steps ++ ns.map .name, ?_⟩
    rw [normal, place, Location.steps_descend]
    simp
  obtain ⟨d, parent, -, above⟩ := parent?_of_fileName? file
  refine ⟨file, d, parent, ?_⟩
  rw [place, ← Location.descend_descend] at above
  exact (Location.descend_one_inj above).1.symm

theorem location_withFileName {p : Path} {n m : String} (file : p.fileName? = some n)
    (name : IsName m) : ∃ d, p.parent? = some d ∧ p.location = d.location.descend [n] ∧
      (p.withFileName m).location = d.location.descend [m] := by
  obtain ⟨d, parent, -, place⟩ := parent?_of_fileName? file
  refine ⟨d, parent, place, ?_⟩
  unfold withFileName
  simp only [file, parent]
  exact location_join_name d name

theorem exists_join_of_ending {p : Path} {ending : String}
    (suffix : ending.toList <:+ p.text.toList) :
    ∃ (front : Path) (stem : String), '/' ∉ stem.toList ∧ p.text = front.text ++ stem ++ ending ∧
      ∀ m, IsName (stem ++ m) → (⟨front.text ++ stem ++ m⟩ : Path) = front.join ⟨stem ++ m⟩ := by
  obtain ⟨s, whole⟩ := suffix
  let inner (c : Char) : Bool := c != '/'
  have parts : s.rdropWhile inner ++ s.rtakeWhile inner = s := List.rdropWhile_append_rtakeWhile ..
  refine ⟨⟨String.ofList (s.rdropWhile inner)⟩, String.ofList (s.rtakeWhile inner), ?_, ?_, ?_⟩
  · intro member
    have kept := List.mem_rtakeWhile_imp (by simpa using member)
    simp [inner] at kept
  · rw [← String.toList_inj, ← whole]
    simp [parts]
  · intro m name
    by_cases empty : s.rdropWhile inner = []
    · rw [empty, join_of_empty rfl]
      simp
    · have slash : (s.rdropWhile inner).getLast? = some '/' := by
        rw [List.getLast?_eq_some_getLast empty]
        simpa [inner] using List.rdropWhile_last_not inner s empty
      rw [join_of_slash (relative_ofName name) (by simpa using slash), String.append_assoc]

/-- The last step of the path is a name, in a directory that leads to `d`. -/
structure StandsAt (p : Path) (d : Location) (n : String) : Prop where
  file : p.fileName? = some n
  place : p.location = d.descend [n]

theorem standsAt_join (base : Path) {n : String} (name : IsName n) :
    (base.join ⟨n⟩).StandsAt base.location n :=
  ⟨fileName?_join_name base name, location_join_name base name⟩

theorem StandsAt.parent? {p : Path} {d : Location} {n : String} (stands : p.StandsAt d n) :
    ∃ above, p.parent? = some above ∧ above.location = d := by
  obtain ⟨above, parent, -, place⟩ := parent?_of_fileName? stands.file
  exact ⟨above, parent, (Location.descend_one_inj (place.symm.trans stands.place)).1⟩

theorem StandsAt.withFileName {p : Path} {d : Location} {n m : String} (stands : p.StandsAt d n)
    (name : IsName m) : (p.withFileName m).StandsAt d m := by
  obtain ⟨above, parent, rfl⟩ := stands.parent?
  unfold Path.withFileName
  simp only [stands.file, parent]
  exact standsAt_join above name

theorem StandsAt.unique {p : Path} {d d' : Location} {n n' : String} (stands : p.StandsAt d n)
    (also : p.StandsAt d' n') : d = d' ∧ n = n' :=
  Location.descend_one_inj (stands.place.symm.trans also.place)

theorem StandsAt.of_same {p q : Path} {d : Location} {n : String} (stands : p.StandsAt d n)
    (same : q.steps = p.steps) : q.StandsAt d n := by
  have file : q.fileName? = p.fileName? := by simp only [fileName?, same]
  have place : q.location = p.location := by simp only [location, same]
  exact ⟨file.trans stands.file, place.trans stands.place⟩

end Path

end DeclBundle
