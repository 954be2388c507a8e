import DeclBundle.Files.Tree

namespace DeclBundle

def Entry.isFile : Entry → Bool
  | .file _ _ => true
  | _ => false

namespace FileTree

theorem entry?_put {t : FileTree} {place : Place} {e : Entry} (below : place ≠ []) (other : Place) :
    entry? (t.put place e) other = if other = place then some e else t.entry? other := by
  have look (entries : List (Place × Entry)) : (put.go place e entries).lookup other =
      if other = place then some e else entries.lookup other := by
    induction entries with
    | nil =>
      by_cases same : other = place
      · simp [put.go, same]
      · simp [put.go, same, List.lookup_cons, beq_false_of_ne same]
    | cons first rest ih =>
      obtain ⟨p, old⟩ := first
      unfold put.go
      by_cases here : p = place
      · by_cases same : other = place
        · simp [here, same]
        · simp [here, same, List.lookup_cons, beq_false_of_ne same]
      · by_cases found : other = p
        · simp [here, found]
        · simp only [here, if_false, List.lookup_cons, beq_false_of_ne found, ih]
  unfold entry? put
  by_cases top : other = []
  · have apart : other ≠ place := fun same => below (same ▸ top)
    simp [top, Ne.symm below]
  · simp only [top, if_false, look]

/-- What was in a tree is in another one, but for files at some places. -/
def Keeps (touched : List Place) (t t' : FileTree) : Prop :=
  ∀ place e, t.entry? place = some e → (e.isFile → place ∉ touched) → t'.entry? place = some e

variable {t t' t'' : FileTree} {touched : List Place}

theorem Keeps.refl (touched : List Place) (t : FileTree) : Keeps touched t t :=
  fun _ _ found _ => found

theorem Keeps.trans {touched' : List Place} (first : Keeps touched t t')
    (second : Keeps touched' t' t'') : Keeps (touched ++ touched') t t'' := by
  intro place e found apart
  apply second place e
  · exact first place e found fun file member => apart file (List.mem_append_left _ member)
  · exact fun file member => apart file (List.mem_append_right _ member)

theorem keeps_put {place : Place} (below : place ≠ []) (e : Entry)
    (free : ∀ old, t.entry? place = some old → old.isFile) : Keeps [place] t (t.put place e) := by
  intro other old found apart
  rw [entry?_put below]
  by_cases same : other = place
  · exact absurd (List.mem_singleton.mpr same) (apart (free old (same ▸ found)))
  · rw [if_neg same, found]

theorem keeps_put_of_missing {place : Place} (below : place ≠ []) (missing : t.entry? place = none)
    (e : Entry) : Keeps [] t (t.put place e) := by
  intro other old found _
  rw [entry?_put below]
  by_cases same : other = place
  · rw [same, missing] at found
    cases found
  · rw [if_neg same, found]

def extend (t : FileTree) (more : List (Place × Entry)) : FileTree := ⟨t.entries ++ more⟩

theorem entry?_extend (t : FileTree) (more : List (Place × Entry)) (place : Place) :
    entry? (t.extend more) place = (t.entry? place).or (more.lookup place) := by
  unfold entry? extend
  split
  · rfl
  · exact List.lookup_append

theorem keeps_extend (t : FileTree) (more : List (Place × Entry)) : Keeps [] t (t.extend more) := by
  intro place e found _
  rw [entry?_extend, found, Option.some_or]

theorem mem_of_entry?_extend {more : List (Place × Entry)} {place : Place} {e : Entry}
    (found : entry? (t.extend more) place = some e) : t.entry? place = some e ∨ (place, e) ∈ more := by
  rw [entry?_extend, Option.or_eq_some_iff] at found
  rcases found with old | ⟨-, new⟩
  · exact .inl old
  · obtain ⟨before, after, rfl, -⟩ := List.lookup_eq_some_iff.mp new
    exact .inr (by simp)

structure LookedUp (piece : String) : Prop where
  notVoid : ¬(piece = "" || piece = ".") = true
  notParent : ¬piece = ".."
  short : ¬piece.utf8ByteSize > 255

instance (piece : String) : Decidable (LookedUp piece) :=
  decidable_of_iff (¬(piece = "" || piece = ".") = true ∧ ¬piece = ".." ∧ ¬piece.utf8ByteSize > 255)
    ⟨fun ⟨notVoid, notParent, short⟩ => ⟨notVoid, notParent, short⟩,
      fun named => ⟨named.notVoid, named.notParent, named.short⟩⟩

section Steps

variable {follow : Bool} {links : Nat} {here : Place} {piece : String} {rest : List String}

theorem walk_void (void : (piece = "" || piece = ".") = true) :
    t.walk follow links here (piece :: rest) = t.walk follow links here rest := by
  rw [FileTree.walk, if_pos void]

theorem walk_up : t.walk follow links here (".." :: rest) = t.walk follow links here.dropLast rest := by
  rw [FileTree.walk, if_neg (by decide), if_pos rfl]

theorem walk_long (notVoid : ¬(piece = "" || piece = ".") = true) (notParent : ¬piece = "..")
    (long : piece.utf8ByteSize > 255) :
    t.walk follow links here (piece :: rest) = .error .nameTooLong := by
  rw [FileTree.walk, if_neg notVoid, if_neg notParent, if_pos long]

variable (named : LookedUp piece)
include named

theorem walk_missing (missing : t.entry? (here ++ [piece]) = none) :
    t.walk follow links here (piece :: rest) =
      if rest.all (· = "") then .ok (.missing here piece (!rest.isEmpty)) else .error .notFound := by
  rw [FileTree.walk, if_neg named.notVoid, if_neg named.notParent, if_neg named.short, missing]

theorem walk_directory (directory : t.entry? (here ++ [piece]) = some .directory) :
    t.walk follow links here (piece :: rest) = t.walk follow links (here ++ [piece]) rest := by
  rw [FileTree.walk, if_neg named.notVoid, if_neg named.notParent, if_neg named.short, directory]

theorem walk_file {bytes : ByteArray} {executable : Bool}
    (file : t.entry? (here ++ [piece]) = some (.file bytes executable)) :
    t.walk follow links here (piece :: rest) =
      if rest.isEmpty then .ok (.found (here ++ [piece]) (.file bytes executable))
      else .error .notADirectory := by
  rw [FileTree.walk, if_neg named.notVoid, if_neg named.notParent, if_neg named.short, file]

variable {target : Path} (link : t.entry? (here ++ [piece]) = some (.link target))
include link

theorem walk_link_last (last : (rest.isEmpty && !follow) = true) :
    t.walk follow links here (piece :: rest) = .ok (.found (here ++ [piece]) (.link target)) := by
  rw [FileTree.walk, if_neg named.notVoid, if_neg named.notParent, if_neg named.short, link]
  exact if_pos last

theorem walk_link_loop (notLast : ¬(rest.isEmpty && !follow) = true) :
    t.walk follow 0 here (piece :: rest) = .error .tooManyLinks := by
  rw [FileTree.walk, if_neg named.notVoid, if_neg named.notParent, if_neg named.short, link]
  exact if_neg notLast

theorem walk_link (notLast : ¬(rest.isEmpty && !follow) = true) :
    t.walk follow (links + 1) here (piece :: rest) =
      t.walk follow links (if target.isRooted then [] else here) (pieces target ++ rest) := by
  rw [FileTree.walk, if_neg named.notVoid, if_neg named.notParent, if_neg named.short, link]
  exact if_neg notLast

end Steps

theorem Keeps.walk (kept : Keeps touched t t') {follow : Bool} {links : Nat} {here : Place}
    {pieces : List String} {place : Place} {e : Entry}
    (found : t.walk follow links here pieces = .ok (.found place e))
    (apart : e.isFile → place ∉ touched) :
    t'.walk follow links here pieces = .ok (.found place e) := by
  fun_induction FileTree.walk t follow links here pieces with
  | case1 => simpa [FileTree.walk] using found
  | case2 links here piece rest void ih =>
    rw [walk_void void]
    exact ih found
  | case3 links here rest notVoid ih =>
    rw [walk_up]
    exact ih found
  | case7 links here piece rest notVoid notParent short directory ih =>
    rw [walk_directory ⟨notVoid, notParent, short⟩ (kept _ _ directory nofun)]
    exact ih found
  | case8 links here piece rest notVoid notParent short bytes executable file last =>
    cases found
    rw [walk_file ⟨notVoid, notParent, short⟩ (kept _ _ file apart)]
    exact if_pos last
  | case10 links here piece rest notVoid notParent short target link last =>
    cases found
    exact walk_link_last ⟨notVoid, notParent, short⟩ (kept _ _ link apart) last
  | case12 here piece rest notVoid notParent short target link notLast links ih =>
    rw [walk_link ⟨notVoid, notParent, short⟩ (kept _ _ link nofun) notLast]
    exact ih found
  | _ => cases found

def Target.filePlace? : Target → Option Place
  | .found place (.file _ _) => some place
  | .missing directory name false => some (directory ++ [name])
  | _ => none

/-- A way to where a file can be written leads to the file once it is there. -/
theorem Keeps.walk_written (kept : Keeps touched t t') {follow : Bool} {links : Nat} {here : Place}
    {pieces : List String} {target : Target} {place : Place} {bytes : ByteArray} {executable : Bool}
    (leads : t.walk follow links here pieces = .ok target) (file : target.filePlace? = some place)
    (written : t'.entry? place = some (.file bytes executable)) :
    t'.walk follow links here pieces = .ok (.found place (.file bytes executable)) := by
  fun_induction FileTree.walk t follow links here pieces with
  | case1 =>
    cases leads
    cases file
  | case2 links here piece rest void ih =>
    rw [walk_void void]
    exact ih leads
  | case3 links here rest notVoid ih =>
    rw [walk_up]
    exact ih leads
  | case5 links here piece rest notVoid notParent short none voids =>
    cases leads
    cases rest with
    | nil =>
      cases file
      rw [walk_file ⟨notVoid, notParent, short⟩ written]
      rfl
    | cons => cases file
  | case7 links here piece rest notVoid notParent short directory ih =>
    rw [walk_directory ⟨notVoid, notParent, short⟩ (kept _ _ directory nofun)]
    exact ih leads
  | case8 links here piece rest notVoid notParent short old oldExecutable found last =>
    cases leads
    cases file
    rw [walk_file ⟨notVoid, notParent, short⟩ written]
    exact if_pos last
  | case10 =>
    cases leads
    cases file
  | case12 here piece rest notVoid notParent short target link notLast links ih =>
    rw [walk_link ⟨notVoid, notParent, short⟩ (kept _ _ link nofun) notLast]
    exact ih leads
  | _ => cases leads

def namesOf (pieces : List String) : List String := pieces.filter fun piece => !(piece = "" || piece = ".")

theorem namesOf_cons_of_void {piece : String} (void : (piece = "" || piece = ".") = true)
    (rest : List String) : namesOf (piece :: rest) = namesOf rest := by
  unfold namesOf
  rw [List.filter_cons_of_neg (by simp only [void]; decide)]

theorem namesOf_cons {piece : String} (notVoid : ¬(piece = "" || piece = ".") = true)
    (rest : List String) : namesOf (piece :: rest) = piece :: namesOf rest := by
  unfold namesOf
  rw [List.filter_cons_of_pos (by simpa using notVoid)]

theorem namesOf_of_empty {pieces : List String} (empty : pieces.all (· = "")) : namesOf pieces = [] := by
  unfold namesOf
  rw [List.filter_eq_nil_iff]
  intro piece member
  simp [List.all_eq_true.mp empty piece member]

theorem walk_voids (t : FileTree) (follow : Bool) (links : Nat) (here : Place) {pieces : List String}
    (voids : namesOf pieces = []) :
    t.walk follow links here pieces = .ok (.found here .directory) := by
  induction pieces with
  | nil => rw [FileTree.walk]
  | cons piece pieces ih =>
    by_cases void : (piece = "" || piece = ".") = true
    · rw [walk_void void]
      exact ih (namesOf_cons_of_void void pieces ▸ voids)
    · rw [namesOf_cons void] at voids
      cases voids

theorem Keeps.walk_made (kept : Keeps touched t t') {follow follow' : Bool} (also : follow → follow')
    {links : Nat} {here : Place} {pieces : List String} {directory : Place} {name : String} {slash : Bool}
    (leads : t.walk follow links here pieces = .ok (.missing directory name slash))
    (made : t'.entry? (directory ++ [name]) = some .directory) :
    t'.walk follow' links here pieces = .ok (.found (directory ++ [name]) .directory) := by
  fun_induction FileTree.walk t follow links here pieces with
  | case2 links here piece rest void ih =>
    rw [walk_void void]
    exact ih leads
  | case3 links here rest notVoid ih =>
    rw [walk_up]
    exact ih leads
  | case5 links here piece rest notVoid notParent short none voids =>
    cases leads
    rw [walk_directory ⟨notVoid, notParent, short⟩ made]
    exact walk_voids t' follow' links _ (namesOf_of_empty voids)
  | case7 links here piece rest notVoid notParent short found ih =>
    rw [walk_directory ⟨notVoid, notParent, short⟩ (kept _ _ found nofun)]
    exact ih leads
  | case12 here piece rest notVoid notParent short target link notLast links ih =>
    have further : ¬(rest.isEmpty && !follow') := by
      cases follow' <;> simp_all
    rw [walk_link ⟨notVoid, notParent, short⟩ (kept _ _ link nofun) further]
    exact ih leads
  | _ => cases leads

def Target.Stands (t : FileTree) : Target → Prop
  | .found place e => e.isFile → t.entry? place = some e
  | .missing directory name _ => t.entry? (directory ++ [name]) = none

theorem stands_of_walk {follow : Bool} {links : Nat} {here : Place} {pieces : List String}
    {target : Target} (leads : t.walk follow links here pieces = .ok target) : target.Stands t := by
  fun_induction FileTree.walk t follow links here pieces with
  | case1 =>
    cases leads
    simp [Target.Stands, Entry.isFile]
  | case2 links here piece rest void ih => exact ih leads
  | case3 links here rest notVoid ih => exact ih leads
  | case5 links here piece rest notVoid notParent short none voids =>
    cases leads
    exact none
  | case7 links here piece rest notVoid notParent short found ih => exact ih leads
  | case8 links here piece rest notVoid notParent short bytes executable found last =>
    cases leads
    exact fun _ => found
  | case10 links here piece rest notVoid notParent short target link last =>
    cases leads
    exact fun _ => link
  | case12 here piece rest notVoid notParent short target link notLast links ih => exact ih leads
  | _ => cases leads

theorem Target.Stands.free {target : Target} (stands : target.Stands t) {place : Place}
    (file : target.filePlace? = some place) :
    place ≠ [] ∧ ∀ old, t.entry? place = some old → old.isFile := by
  unfold Target.filePlace? at file
  split at file
  · rename_i bytes executable
    cases file
    have found : t.entry? place = some (.file bytes executable) := stands rfl
    refine ⟨?_, ?_⟩
    · rintro rfl
      simp [FileTree.entry?] at found
    · intro old same
      rw [found] at same
      cases same
      rfl
  · cases file
    refine ⟨by simp, fun old same => ?_⟩
    have none : t.entry? _ = none := stands
    rw [none] at same
    cases same
  · cases file

theorem walk_append {links : Nat} {here place : Place} {pieces : List String}
    (found : t.walk true links here pieces = .ok (.found place .directory)) :
    ∃ left, ∀ follow rest, rest ≠ [] →
      t.walk follow links here (pieces ++ rest) = t.walk follow left place rest := by
  generalize always : true = follow' at found
  fun_induction FileTree.walk t follow' links here pieces with
  | case1 links here =>
    cases found
    exact ⟨links, fun _ _ _ => rfl⟩
  | case2 links here piece rest void ih =>
    obtain ⟨left, onward⟩ := ih found
    refine ⟨left, fun follow more some => ?_⟩
    rw [List.cons_append, walk_void void]
    exact onward follow more some
  | case3 links here rest notVoid ih =>
    obtain ⟨left, onward⟩ := ih found
    refine ⟨left, fun follow more some => ?_⟩
    rw [List.cons_append, walk_up]
    exact onward follow more some
  | case7 links here piece rest notVoid notParent short directory ih =>
    obtain ⟨left, onward⟩ := ih found
    refine ⟨left, fun follow more some => ?_⟩
    rw [List.cons_append, walk_directory ⟨notVoid, notParent, short⟩ directory]
    exact onward follow more some
  | case12 here piece rest notVoid notParent short target link notLast links ih =>
    obtain ⟨left, onward⟩ := ih found
    refine ⟨left, fun follow more some => ?_⟩
    -- What is left after the link keeps it from being the end of the longer way.
    rw [List.cons_append, walk_link ⟨notVoid, notParent, short⟩ link (by simp [some]), ← List.append_assoc]
    exact onward follow more some
  | _ => cases found

def LinkFree (t : FileTree) (place : Place) : Prop :=
  ∀ names target, names ≠ [] → t.entry? (place ++ names) ≠ some (.link target)

theorem LinkFree.below {place : Place} (free : t.LinkFree place) (name : String) :
    t.LinkFree (place ++ [name]) := by
  intro names target _
  rw [List.append_assoc]
  exact free _ target (by simp)

def Target.place : Target → Place
  | .found place _ => place
  | .missing directory name _ => directory ++ [name]

theorem Target.place_of_filePlace? {target : Target} {place : Place}
    (file : target.filePlace? = some place) : target.place = place := by
  unfold Target.filePlace? at file
  split at file <;> cases file <;> rfl

theorem place_of_walk {follow : Bool} {links : Nat} {here : Place} {pieces : List String}
    (free : t.LinkFree here) (down : ".." ∉ pieces) {target : Target}
    (leads : t.walk follow links here pieces = .ok target) : target.place = here ++ namesOf pieces := by
  fun_induction FileTree.walk t follow links here pieces with
  | case1 =>
    cases leads
    exact (List.append_nil _).symm
  | case2 links here piece rest void ih =>
    rw [namesOf_cons_of_void void]
    exact ih free (fun up => down (by simp [up])) leads
  | case3 => exact absurd List.mem_cons_self down
  | case5 links here piece rest notVoid notParent short none voids =>
    cases leads
    rw [namesOf_cons notVoid, namesOf_of_empty voids]
    rfl
  | case7 links here piece rest notVoid notParent short directory ih =>
    rw [ih (free.below piece) (fun up => down (by simp [up])) leads, namesOf_cons notVoid,
      List.append_assoc, List.singleton_append]
  | case8 links here piece rest notVoid notParent short bytes executable found last =>
    cases leads
    obtain rfl : rest = [] := List.isEmpty_iff.mp last
    rw [namesOf_cons notVoid]
    rfl
  | case10 links here piece rest notVoid notParent short target link =>
    exact absurd link (free [piece] target (by simp))
  | case12 here piece rest notVoid notParent short target link =>
    exact absurd link (free [piece] target (by simp))
  | _ => cases leads

theorem getLast?_of_walk {follow : Bool} {links : Nat} {here : Place} {pieces : List String}
    (free : t.LinkFree here) (down : ".." ∉ pieces) {target : Target} {place : Place}
    (leads : t.walk follow links here pieces = .ok target) (file : target.filePlace? = some place) :
    ∃ name, pieces.getLast? = some name ∧ namesOf [name] = [name] := by
  fun_induction FileTree.walk t follow links here pieces with
  | case1 =>
    cases leads
    cases file
  | case2 links here piece rest void ih =>
    obtain ⟨name, last, named⟩ := ih free (fun up => down (by simp [up])) leads
    exact ⟨name, by rw [List.getLast?_cons, last]; rfl, named⟩
  | case3 => exact absurd List.mem_cons_self down
  | case5 links here piece rest notVoid notParent short none voids =>
    cases leads
    cases rest with
    | nil => exact ⟨piece, rfl, namesOf_cons notVoid []⟩
    | cons => cases file
  | case7 links here piece rest notVoid notParent short directory ih =>
    obtain ⟨name, last, named⟩ := ih (free.below piece) (fun up => down (by simp [up])) leads
    exact ⟨name, by rw [List.getLast?_cons, last]; rfl, named⟩
  | case8 links here piece rest notVoid notParent short bytes executable found last =>
    obtain rfl : rest = [] := List.isEmpty_iff.mp last
    exact ⟨piece, rfl, namesOf_cons notVoid []⟩
  | case10 links here piece rest notVoid notParent short target link =>
    exact absurd link (free [piece] target (by simp))
  | case12 here piece rest notVoid notParent short target link =>
    exact absurd link (free [piece] target (by simp))
  | _ => cases leads

end FileTree

end DeclBundle
