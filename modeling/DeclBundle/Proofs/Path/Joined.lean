import DeclBundle.Proofs.Path.FileName

namespace DeclBundle

namespace Path

/-- The text ends in a name, or in steps up. -/
def Tidy (p : Path) : Prop := ∃ front piece, p.pieces = front ++ [piece] ∧ isVoid piece = false

theorem ext_pieces {p q : Path} (same : p.pieces = q.pieces) : p = q := by
  rw [← ofPieces_pieces p, same, ofPieces_pieces]

theorem Tidy.text_ne {p : Path} (tidy : p.Tidy) : p.text ≠ "" := by
  intro empty
  obtain ⟨front, piece, parts, notVoid⟩ := tidy
  rw [pieces, empty] at parts
  obtain ⟨rfl, rfl⟩ : front = [] ∧ piece = [] := by simpa [List.append_eq_cons_iff] using parts.symm
  cases notVoid

theorem pieces_join {base p : Path} (tidy : base.Tidy) (relative : ¬p.isRooted) :
    (base.join p).pieces = base.pieces ++ p.pieces := by
  obtain ⟨front, own | own, joined⟩ := exists_pieces_join base
  · rw [joined p relative, own]
  · obtain ⟨rest, piece, parts, notVoid⟩ := tidy
    obtain ⟨-, rfl⟩ : _ ∧ [] = piece := by simpa using own.symm.trans parts
    cases notVoid

theorem isVoid_ofName {n : String} (name : IsName n) : isVoid n.toList = false := by
  simp only [isVoid, Bool.or_eq_false_iff, decide_eq_false_iff_not]
  exact ⟨fun h => name.nonempty (String.toList_inj.mp h),
    fun h => name.notCurrent (String.toList_inj.mp h)⟩

theorem pieces_join_name {base : Path} (tidy : base.Tidy) {n : String} (name : IsName n) :
    (base.join ⟨n⟩).pieces = base.pieces ++ [n.toList] := by
  rw [pieces_join tidy (relative_ofName name), pieces_ofName name]

theorem exists_pieces_join_name (base : Path) :
    ∃ front, ∀ n, IsName n → (base.join ⟨n⟩).pieces = front ++ [n.toList] := by
  obtain ⟨front, -, joined⟩ := exists_pieces_join base
  exact ⟨front, fun n name => by rw [joined _ (relative_ofName name), pieces_ofName name]⟩

theorem tidy_join_name (base : Path) {n : String} (name : IsName n) : (base.join ⟨n⟩).Tidy := by
  obtain ⟨front, parts⟩ := exists_pieces_join_name base
  exact ⟨front, n.toList, parts n name, isVoid_ofName name⟩

theorem splitPieces_of_first {first : List Char} (notVoid : isVoid first = false)
    (rest : List (List Char)) : splitPieces (first :: rest) = (.bare, first :: rest) := by
  unfold splitPieces
  split <;> simp_all [isVoid]

theorem splitPieces_append (front : List (List Char)) {piece : List Char}
    (notVoid : isVoid piece = false) :
    ∃ anchor inner, ∀ rest, splitPieces (front ++ [piece] ++ rest) = (anchor, inner ++ [piece] ++ rest) ∧
      String.ofList (Anchor.write anchor (inner ++ [piece] ++ rest)) =
        (ofPieces (front ++ [piece] ++ rest)).text := by
  cases front with
  | nil => exact ⟨.bare, [], fun rest => ⟨splitPieces_of_first notVoid rest, rfl⟩⟩
  | cons first front =>
    by_cases void : isVoid first
    · have written (first : List Char) (rest : List (List Char)) :
          (ofPieces (first :: front ++ [piece] ++ rest)).text =
            String.ofList (first ++ '/' :: ['/'].intercalate (front ++ [piece] ++ rest)) := by
        simp [ofPieces, List.intercalate_cons_of_ne_nil]
      rcases Bool.or_eq_true_iff.mp void with empty | dot
      · obtain rfl := of_decide_eq_true empty
        refine ⟨.rooted, front, fun rest => ⟨?_, by rw [written]; simp [Anchor.write]⟩⟩
        cases front <;> rfl
      · obtain rfl := of_decide_eq_true dot
        refine ⟨.dotted, front, fun rest => ⟨rfl, ?_⟩⟩
        rw [written]
        cases front <;> simp [Anchor.write]
    · exact ⟨.bare, first :: front, fun rest => ⟨splitPieces_of_first (by simpa using void) _, rfl⟩⟩

theorem trimPieces_concat {ps : List (List Char)} {piece : List Char}
    (notVoid : isVoid piece = false) : trimPieces (ps ++ [piece]) = ps ++ [piece] := by
  rw [trimPieces_eq, List.rdropWhile_concat_neg _ _ _ (by simp [notVoid])]

theorem parent?_join_name {base : Path} (tidy : base.Tidy) {n : String} (name : IsName n) :
    (base.join ⟨n⟩).parent? = some base := by
  have joined := pieces_join_name tidy name
  obtain ⟨front, piece, parts, notVoid⟩ := tidy
  obtain ⟨anchor, inner, split⟩ := splitPieces_append front notVoid
  have last : trimPieces (inner ++ [piece] ++ [n.toList]) = inner ++ [piece] ++ [n.toList] :=
    trimPieces_concat (isVoid_ofName name)
  have written := (split []).2
  rw [List.append_nil, List.append_nil] at written
  unfold parent?
  rw [split_eq, joined, parts, (split _).1]
  simp only [last, List.reverse_append, List.reverse_cons, List.reverse_nil, List.nil_append,
    List.singleton_append, List.reverse_reverse]
  rw [trimPieces_concat notVoid, written, ← parts, ofPieces_pieces]

theorem exists_splitPieces_concat (front : List (List Char)) :
    ∃ anchor inner, ∀ piece, isVoid piece = false →
      splitPieces (front ++ [piece]) = (anchor, inner ++ [piece]) := by
  cases front with
  | nil => exact ⟨.bare, [], fun _ notVoid => splitPieces_of_first notVoid []⟩
  | cons first rest =>
    by_cases void : isVoid first
    · rcases Bool.or_eq_true_iff.mp void with empty | dot
      · obtain rfl := of_decide_eq_true empty
        exact ⟨.rooted, rest, fun _ _ => by cases rest <;> rfl⟩
      · obtain rfl := of_decide_eq_true dot
        exact ⟨.dotted, rest, fun _ _ => rfl⟩
    · exact ⟨.bare, first :: rest, fun _ _ => splitPieces_of_first (by simpa using void) _⟩

theorem exists_parent?_join_name (base : Path) :
    ∃ above, ∀ n, IsName n → (base.join ⟨n⟩).parent? = some above := by
  obtain ⟨front, parts⟩ := exists_pieces_join_name base
  obtain ⟨anchor, inner, split⟩ := exists_splitPieces_concat front
  refine ⟨⟨String.ofList (anchor.write (trimPieces inner))⟩, fun n name => ?_⟩
  have notVoid := isVoid_ofName name
  unfold parent?
  rw [split_eq, parts n name, split _ notVoid]
  simp only [trimPieces_concat notVoid, List.reverse_append, List.reverse_cons, List.reverse_nil,
    List.nil_append, List.singleton_append, List.reverse_reverse]

theorem withFileName_join_name {base : Path} (tidy : base.Tidy) {n : String} (name : IsName n)
    (m : String) : (base.join ⟨n⟩).withFileName m = base.join ⟨m⟩ := by
  unfold withFileName
  simp only [fileName?_join_name base name, parent?_join_name tidy name]

theorem join_of_join {p : Path} {front n m : String} (relative : ¬isRooted ⟨n⟩)
    (relative' : ¬isRooted ⟨m⟩) (joined : (p.join ⟨n⟩).text = front ++ n) :
    p.join ⟨m⟩ = ⟨front ++ m⟩ := by
  by_cases empty : p.text = ""
  · rw [join_of_empty empty] at joined ⊢
    have none : "" = front := (String.append_left_inj n).mp ((String.empty_append).trans joined)
    rw [← none, String.empty_append]
  · obtain ⟨start, -, whole⟩ := exists_join_eq empty
    rw [whole _ relative] at joined
    rw [whole _ relative', (String.append_left_inj _).mp joined]

theorem join_congr {p q : Path} {n m : String} (relative : ¬isRooted ⟨n⟩) (relative' : ¬isRooted ⟨m⟩)
    (joined : p.join ⟨n⟩ = q.join ⟨n⟩) : p.join ⟨m⟩ = q.join ⟨m⟩ := by
  obtain ⟨front, whole⟩ : ∃ front, ∀ k, ¬isRooted ⟨k⟩ → q.join ⟨k⟩ = ⟨front ++ k⟩ := by
    by_cases empty : q.text = ""
    · exact ⟨"", fun k _ => by rw [join_of_empty empty, String.empty_append]⟩
    · obtain ⟨start, -, whole⟩ := exists_join_eq empty
      exact ⟨_, fun k => whole ⟨k⟩⟩
  rw [whole m relative']
  rw [whole n relative] at joined
  exact join_of_join relative relative' (congrArg text joined)

def enter (base : Path) (ns : List String) : Path := ns.foldl (fun p n => p.join ⟨n⟩) base

theorem enter_concat (base : Path) (ns : List String) (n : String) :
    base.enter (ns ++ [n]) = (base.enter ns).join ⟨n⟩ := by
  simp [enter]

theorem tidy_enter {base : Path} (tidy : base.Tidy) {ns : List String} (named : ∀ n ∈ ns, IsName n) :
    (base.enter ns).Tidy := by
  rcases List.eq_nil_or_concat ns with rfl | ⟨front, n, rfl⟩
  · exact tidy
  · rw [List.concat_eq_append, enter_concat]
    exact tidy_join_name _ (named n (by simp))

theorem pieces_enter {base : Path} (tidy : base.Tidy) {ns : List String}
    (named : ∀ n ∈ ns, IsName n) : (base.enter ns).pieces = base.pieces ++ ns.map String.toList := by
  induction ns using List.reverseRecOn with
  | nil => simp [enter]
  | append_singleton ns n ih =>
    have inner : ∀ m ∈ ns, IsName m := fun m member => named m (by simp [member])
    rw [enter_concat, pieces_join_name (tidy_enter tidy inner) (named n (by simp)), ih inner]
    simp

theorem withFileName_enter {base : Path} (tidy : base.Tidy) {ns : List String} {n : String}
    (named : ∀ m ∈ ns ++ [n], IsName m) (m : String) :
    (base.enter (ns ++ [n])).withFileName m = base.enter (ns ++ [m]) := by
  rw [enter_concat, enter_concat]
  apply withFileName_join_name
  · exact tidy_enter tidy fun m member => named m (by simp [member])
  · exact named n (by simp)

theorem pieces_ofSteps {ns : List String} (some : ns ≠ []) (named : ∀ n ∈ ns, IsName n) :
    (ofSteps (ns.map .name)).pieces = ns.map String.toList := by
  have written : ofSteps (ns.map .name) = ofPieces (ns.map String.toList) := by
    have texts := intercalate_texts (ns.map .name)
    unfold ofSteps
    split
    · rename_i root
      cases ns <;> simp at root
    · rw [texts]
      simp [Function.comp_def, Step.text]
  rw [written, pieces_ofPieces (by simpa using some)]
  intro piece member
  obtain ⟨n, inside, rfl⟩ := List.mem_map.mp member
  exact (named n inside).noSlash

theorem join_relativeTo_inside {here base target : Path} (tidy : here.Tidy) {ns : List String}
    (some : ns ≠ []) (place : target.location = base.location.descend ns) :
    here.join (base.relativeTo target) = here.enter ns := by
  have named : ∀ n ∈ ns, IsName n := fun n member =>
    target.location_sound.named n (by simp [place, member])
  have proper : ∀ c ∈ ns.map Step.name, c.Proper := by
    intro c member
    obtain ⟨n, inside, rfl⟩ := List.mem_map.mp member
    exact named n inside
  apply ext_pieces
  rw [relativeTo_inside place, pieces_join tidy (relative_ofSteps proper), pieces_ofSteps some named,
    pieces_enter tidy named]

theorem location_enter (base : Path) {ns : List String} (named : ∀ n ∈ ns, IsName n) :
    (base.enter ns).location = base.location.descend ns := by
  induction ns using List.reverseRecOn with
  | nil => simp [enter]
  | append_singleton ns n ih =>
    rw [enter_concat, location_join_name _ (named n (by simp)),
      ih fun m member => named m (by simp [member]), Location.descend_descend]

theorem isRooted_enter {base : Path} (named : ∀ n ∈ ns, IsName n) :
    (base.enter ns).isRooted = base.isRooted := by
  rw [← rooted_location, location_enter base named, Location.descend_rooted, rooted_location]

theorem IsNormal.join {base p : Path} (normal : base.IsNormal) (relative : ¬p.isRooted) {ns : List String}
    (steps : p.pieces.filterMap stepOf = ns.map .name) :
    (base.join p).IsNormal ∧ (base.join p).location = base.location.descend ns := by
  have whole : (base.join p).steps = .root :: (base.location.names ++ ns).map .name := by
    rw [steps_join normal.rooted relative, normal.steps_eq_names, steps, List.map_append, List.cons_append]
  have rooted := (isRooted_join relative (text_ne_of_rooted normal.rooted)).trans normal.rooted
  obtain ⟨joined, place⟩ := IsNormal.of_steps rooted whole
  refine ⟨joined, ?_⟩
  rw [place, location_of_rooted normal.rooted]
  rfl

theorem IsNormal.join_name {base : Path} (normal : base.IsNormal) {n : String} (name : IsName n) :
    (base.join ⟨n⟩).IsNormal :=
  (normal.join (relative_ofName name) (filterMap_pieces_ofName name)).1

def Descends (base : Path) (ns : List String) (p : Path) : Prop :=
  ∃ rest, p.pieces = base.pieces ++ rest ∧ rest.filterMap stepOf = ns.map .name

theorem descends_join {base p : Path} (tidy : base.Tidy) (relative : ¬p.isRooted) {ns : List String}
    (steps : p.pieces.filterMap stepOf = ns.map .name) : base.Descends ns (base.join p) :=
  ⟨p.pieces, pieces_join tidy relative, steps⟩

theorem descends_join_name {base : Path} (tidy : base.Tidy) {n : String} (name : IsName n) :
    base.Descends [n] (base.join ⟨n⟩) :=
  descends_join tidy (relative_ofName name) (filterMap_pieces_ofName name)

theorem Descends.trans {base q p : Path} {ms ns : List String} (first : base.Descends ms q)
    (second : q.Descends ns p) : base.Descends (ms ++ ns) p := by
  obtain ⟨rest, parts, steps⟩ := first
  obtain ⟨rest', parts', steps'⟩ := second
  refine ⟨rest ++ rest', by rw [parts', parts, List.append_assoc], ?_⟩
  rw [List.filterMap_append, steps, steps', List.map_append]

theorem Descends.isRooted_eq {base p : Path} (tidy : base.Tidy) {ns : List String}
    (descends : base.Descends ns p) : p.isRooted = base.isRooted := by
  obtain ⟨front, piece, parts, notVoid⟩ := tidy
  obtain ⟨rest, whole, -⟩ := descends
  obtain ⟨anchor, inner, split⟩ := splitPieces_append front notVoid
  have top := (split []).1
  rw [List.append_nil] at top
  rw [Bool.eq_iff_iff, isRooted_iff, isRooted_iff, whole, parts, (split rest).1, top]

theorem trimPieces_append (ps : List (List Char)) {piece : List Char} (notVoid : isVoid piece = false)
    (qs : List (List Char)) : trimPieces (ps ++ [piece] ++ qs) = ps ++ [piece] ++ trimPieces qs := by
  induction qs using List.reverseRecOn with
  | nil =>
    rw [List.append_nil, trimPieces_concat notVoid, trimPieces_eq, List.rdropWhile_nil, List.append_nil]
  | append_singleton qs last ih =>
    rw [← List.append_assoc, trimPieces_eq, List.rdropWhile_concat, trimPieces_eq, List.rdropWhile_concat]
    split
    · exact ih
    · rw [List.append_assoc]

theorem Descends.exists_parent? {base p : Path} (tidy : base.Tidy) {ns : List String} {n : String}
    (descends : base.Descends (ns ++ [n]) p) :
    ∃ above, p.parent? = some above ∧ base.Descends ns above ∧ (ns = [] → above = base) := by
  obtain ⟨front, piece, parts, notVoid⟩ := tidy
  obtain ⟨rest, whole, steps⟩ := descends
  obtain ⟨anchor, inner, split⟩ := splitPieces_append front notVoid
  rw [parts] at whole
  obtain ⟨before, last, trimmed, notVoid'⟩ : ∃ before last, trimPieces rest = before ++ [last] ∧
      isVoid last = false := by
    rcases trimPieces_cases rest with none | some
    · rw [← filterMap_trimPieces, none] at steps
      simp at steps
    · exact some
  have inside : ∀ q ∈ front ++ [piece] ++ trimPieces before, q ∈ p.pieces := by
    have front' : before <+: rest := (trimmed ▸ List.prefix_append ..).trans (trimPieces_isPrefix rest)
    have kept : trimPieces before <+: rest := (trimPieces_isPrefix before).trans front'
    rw [whole]
    exact ((List.prefix_append_right_inj _).mpr kept).subset
  have own : before.filterMap stepOf = ns.map .name := by
    obtain ⟨step, own⟩ := exists_stepOf notVoid'
    rw [← filterMap_trimPieces, trimmed, List.filterMap_append, List.filterMap_cons_some own,
      List.map_append] at steps
    exact (List.append_inj' steps rfl).1
  refine ⟨ofPieces (front ++ [piece] ++ trimPieces before), ?_, ⟨trimPieces before, ?_, ?_⟩, ?_⟩
  · unfold parent?
    rw [split_eq, whole, (split rest).1]
    simp only [trimPieces_append _ notVoid, trimmed]
    rw [← List.append_assoc, List.reverse_concat]
    dsimp only
    rw [List.reverse_reverse, trimPieces_append _ notVoid, (split _).2]
  · rw [pieces_ofPieces (by simp) fun q member => noSlash_of_mem_pieces (inside q member), parts]
  · rw [filterMap_trimPieces, own]
  · rintro rfl
    rcases trimPieces_cases before with none | ⟨_, last', more, notVoid''⟩
    · rw [none, List.append_nil, ← parts, ofPieces_pieces]
    · rw [← filterMap_trimPieces, more, List.map_nil, List.filterMap_eq_nil_iff] at own
      obtain ⟨step, some⟩ := exists_stepOf notVoid''
      cases some.symm.trans (own last' (by simp))

theorem isRooted_parent? {p d : Path} (rooted : p.isRooted) (parent : p.parent? = some d) :
    d.isRooted := by
  have anchor := (isRooted_iff p).mp rooted
  rw [← split_eq] at anchor
  unfold parent? at parent
  simp only [anchor] at parent
  split at parent
  · rw [← Option.some.inj parent]
    simp [isRooted, Anchor.write]
  · contradiction
  · contradiction

end Path

end DeclBundle
