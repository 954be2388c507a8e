import DeclBundle.Proofs.Files.Tree

namespace DeclBundle.FileTree

variable {t t' t'' : FileTree} {here place top : Place} {p : Path}

theorem alike_of_map_eq {r r' : Except FileError FileTree} (alike : r'.map entry? = r.map entry?) :
    (∃ e, r = .error e ∧ r' = .error e) ∨ ∃ u u', r = .ok u ∧ r' = .ok u' ∧ u'.entry? = u.entry? := by
  cases r with
  | error e =>
    cases r' with
    | error e' => exact .inl ⟨e, rfl, congrArg Except.error (Except.error.inj alike)⟩
    | ok u' => cases alike
  | ok u =>
    cases r' with
    | error e' => cases alike
    | ok u' => exact .inr ⟨u, u', rfl, rfl, Except.ok.inj alike⟩

section SameEntries

variable (same : t'.entry? = t.entry?)

include same

theorem walk_eq (follow : Bool) (links : Nat) (here : Place) (pieces : List String) :
    t'.walk follow links here pieces = t.walk follow links here pieces := by
  fun_induction FileTree.walk t follow links here pieces with
  | case1 => rw [FileTree.walk]
  | case2 links here piece rest void ih => rw [walk_void void, ih]
  | case3 links here rest notVoid ih => rw [walk_up, ih]
  | case4 links here piece rest notVoid notParent long => exact walk_long notVoid notParent long
  | case5 links here piece rest notVoid notParent short none voids =>
    rw [walk_missing ⟨notVoid, notParent, short⟩ (same ▸ none), if_pos voids]
  | case6 links here piece rest notVoid notParent short none voids =>
    rw [walk_missing ⟨notVoid, notParent, short⟩ (same ▸ none), if_neg voids]
  | case7 links here piece rest notVoid notParent short found ih =>
    rw [walk_directory ⟨notVoid, notParent, short⟩ (same ▸ found), ih]
  | case8 links here piece rest notVoid notParent short bytes executable found last =>
    rw [walk_file ⟨notVoid, notParent, short⟩ (same ▸ found), if_pos last]
  | case9 links here piece rest notVoid notParent short bytes executable found last =>
    rw [walk_file ⟨notVoid, notParent, short⟩ (same ▸ found), if_neg last]
  | case10 links here piece rest notVoid notParent short target link last =>
    exact walk_link_last ⟨notVoid, notParent, short⟩ (same ▸ link) last
  | case11 here piece rest notVoid notParent short target link last =>
    exact walk_link_loop ⟨notVoid, notParent, short⟩ (same ▸ link) last
  | case12 here piece rest notVoid notParent short target link notLast links ih =>
    rw [walk_link ⟨notVoid, notParent, short⟩ (same ▸ link) notLast]
    exact ih

theorem resolve_eq (here : Place) (p : Path) (follow : Bool) :
    t'.resolve here p follow = t.resolve here p follow := by
  unfold resolve
  rw [walk_eq same]

theorem find_eq (here : Place) (p : Path) : t'.find here p = t.find here p := by
  unfold find
  rw [resolve_eq same]

theorem isDirectory_eq (here : Place) (p : Path) : t'.isDirectory here p = t.isDirectory here p := by
  unfold isDirectory
  rw [find_eq same]

theorem entry?_put_eq (below : place ≠ []) (e : Entry) :
    entry? (t'.put place e) = entry? (t.put place e) := by
  funext other
  rw [entry?_put below, entry?_put below, same]

theorem map_write_eq (here : Place) (p : Path) (bytes : ByteArray) :
    (t'.write here p bytes).map entry? = (t.write here p bytes).map entry? := by
  unfold write
  rw [resolve_eq same]
  cases leads : t.resolve here p true with
  | error e => rfl
  | ok target =>
    have stands := stands_of_walk (resolve_eq_ok_iff.mp leads).2
    rcases target with ⟨place, _ | _ | _⟩ | ⟨directory, name, _ | _⟩ <;> try rfl
    · obtain ⟨below, -⟩ := stands.free rfl
      exact congrArg Except.ok (entry?_put_eq same below _)
    · exact congrArg Except.ok (entry?_put_eq same (by simp) _)

theorem map_makeDirectory_eq (here : Place) (p : Path) :
    (t'.makeDirectory here p).map entry? = (t.makeDirectory here p).map entry? := by
  unfold makeDirectory
  rw [resolve_eq same]
  split
  · rfl
  · rfl
  · exact congrArg Except.ok (entry?_put_eq same (by simp) _)

theorem settled_eq {made made' : Except FileError FileTree} (alike : made'.map entry? = made.map entry?) :
    (settled here p made' t').1 = (settled here p made t).1 ∧
      entry? (settled here p made' t').2 = entry? (settled here p made t).2 := by
  rcases alike_of_map_eq alike with ⟨e, rfl, rfl⟩ | ⟨u, u', rfl, rfl, entries⟩
  · cases e <;> try exact ⟨rfl, same⟩
    simp only [settled, isDirectory_eq same]
    split <;> exact ⟨rfl, same⟩
  · exact ⟨rfl, entries⟩

theorem makeDirectories_eq (here : Place) (fuel : Nat) (p : Path) :
    (makeDirectories here fuel p t').1 = (makeDirectories here fuel p t).1 ∧
      entry? (makeDirectories here fuel p t').2 = entry? (makeDirectories here fuel p t).2 := by
  induction fuel generalizing p with
  | zero => exact ⟨rfl, same⟩
  | succ fuel ih =>
    cases parent : p.parent? with
    | none => simpa only [makeDirectories, parent, true_and] using same
    | some above =>
      have alike := map_makeDirectory_eq same here p
      by_cases missing : t.makeDirectory here p = .error .notFound
      · have missing' : t'.makeDirectory here p = .error .notFound := by
          rcases alike_of_map_eq alike with ⟨e, found, found'⟩ | ⟨u, u', made, -⟩
          · rw [found', ← found, missing]
          · cases missing.symm.trans made
        rw [makeDirectories_of_missing parent fuel missing, makeDirectories_of_missing parent fuel missing']
        split
        · exact ⟨rfl, same⟩
        · obtain ⟨result, entries⟩ := ih above
          rcases deeper : makeDirectories here fuel above t with ⟨_ | _, v⟩ <;>
            rcases deeper' : makeDirectories here fuel above t' with ⟨_ | _, v'⟩ <;>
            rw [deeper, deeper'] at result entries <;> cases result
          · exact ⟨rfl, entries⟩
          · exact settled_eq entries (map_makeDirectory_eq entries here p)
      · have found' : t'.makeDirectory here p ≠ .error .notFound := by
          intro missing'
          rcases alike_of_map_eq alike with ⟨e, found, found'⟩ | ⟨u, u', -, made', -⟩
          · exact missing (found.trans (found'.symm.trans missing'))
          · cases missing'.symm.trans made'
        rw [makeDirectories_of_found parent fuel missing, makeDirectories_of_found parent fuel found']
        exact settled_eq same alike

theorem makePath_eq (here : Place) (p : Path) :
    (t'.makePath here p).1 = (t.makePath here p).1 ∧
      entry? (t'.makePath here p).2 = entry? (t.makePath here p).2 := by
  unfold makePath
  split
  · exact ⟨rfl, same⟩
  · exact makeDirectories_eq same here _ p

end SameEntries

def Beneath (top place : Place) : Prop := ∃ names, names ≠ [] ∧ place = top ++ names

theorem not_beneath_self (top : Place) : ¬Beneath top top := by
  rintro ⟨names, some, same⟩
  exact some (List.self_eq_append_right.mp same)

def SameOutside (top : Place) (t t' : FileTree) : Prop :=
  ∀ place, ¬Beneath top place → t'.entry? place = t.entry? place

theorem SameOutside.refl (top : Place) (t : FileTree) : t.SameOutside top t := fun _ _ => rfl

theorem SameOutside.trans (first : t.SameOutside top t') (second : t'.SameOutside top t'') :
    t.SameOutside top t'' := fun place outside => (second place outside).trans (first place outside)

theorem sameOutside_put (beneath : Beneath top place) (e : Entry) :
    t.SameOutside top (t.put place e) := by
  intro other outside
  have below : place ≠ [] := by
    obtain ⟨names, some, rfl⟩ := beneath
    simp [some]
  rw [entry?_put below, if_neg]
  rintro rfl
  exact outside beneath

theorem sameOutside_extend {more : List (Place × Entry)} (beneath : ∀ entry ∈ more, Beneath top entry.1) :
    t.SameOutside top (t.extend more) := by
  intro place outside
  rw [entry?_extend]
  cases new : more.lookup place with
  | none => exact Option.or_none
  | some e =>
    obtain ⟨before, after, rfl, -⟩ := List.lookup_eq_some_iff.mp new
    exact absurd (beneath (place, e) (by simp)) outside

theorem entry?_remove (below : top ≠ []) (place : Place) :
    entry? (t.remove top) place = if top <+: place then none else t.entry? place := by
  -- The root is no entry of the list, and is looked up before the list is.
  have look (entries : List (Place × Entry)) : (remove top ⟨entries⟩).entries.lookup place =
      if top <+: place then none else entries.lookup place := by
    unfold remove
    induction entries with
    | nil => simp
    | cons first rest ih =>
      obtain ⟨p, e⟩ := first
      by_cases inside : top <+: p
      · rw [List.filter_cons_of_neg (by simpa using inside), ih, List.lookup_cons]
        by_cases found : place = p
        · simp [found, inside]
        · simp [beq_false_of_ne found]
      · have apart : top.isPrefixOf p = false := by
          rwa [← Bool.not_eq_true, List.isPrefixOf_iff_prefix]
        rw [List.filter_cons_of_pos (by simp [apart]), List.lookup_cons, List.lookup_cons, ih]
        by_cases found : place = p
        · simp [found, inside]
        · simp [beq_false_of_ne found]
  unfold entry?
  by_cases none : place = []
  · simp [none, below]
  · rw [if_neg none, if_neg none]
    exact look t.entries

/-- A path that leads to a place where nothing is, and nothing is below that. -/
structure Opened (t : FileTree) (here : Place) (p : Path) (top : Place) : Prop where
  leads : ∃ directory name slash, top = directory ++ [name] ∧
    t.resolve here p false = .ok (.missing directory name slash)
  empty : ∀ names, t.entry? (top ++ names) = none

theorem Opened.below (opened : t.Opened here p top) : top ≠ [] := by
  obtain ⟨directory, name, slash, rfl, -⟩ := opened.leads
  simp

theorem opened_of_makeDirectory (grounded : t.Grounded) (made : t.makeDirectory here p = .ok t') :
    ∃ top, t.Opened here p top ∧ t' = t.put top .directory := by
  obtain ⟨directory, name, slash, leads, none, new⟩ := missing_of_makeDirectory made
  exact ⟨_, ⟨⟨directory, name, slash, rfl, leads⟩, grounded.missing_below none⟩, new⟩

theorem makeDirectories_of_new (fuel : Nat) {above : Path} (parent : p.parent? = some above)
    (made : t.makeDirectory here p = .ok t') : makeDirectories here (fuel + 1) p t = (.ok (), t') := by
  rw [makeDirectories_of_found parent fuel (by simp [made]), made]
  rfl

theorem makeDirectories_of_old (fuel : Nat) {above : Path} (parent : p.parent? = some above)
    (old : t.makeDirectory here p = .error .alreadyExists) (stands : t.isDirectory here p) :
    makeDirectories here (fuel + 1) p t = (.ok (), t) := by
  rw [makeDirectories_of_found parent fuel (by simp [old]), old]
  exact if_pos stands

theorem makeDirectories_of_deep {fuel : Nat} {above : Path} (parent : p.parent? = some above)
    (some : above.text ≠ "") (missing : t.makeDirectory here p = .error .notFound) {t₁ : FileTree}
    (made : makeDirectories here fuel above t = (.ok (), t₁)) (made' : t₁.makeDirectory here p = .ok t') :
    makeDirectories here (fuel + 1) p t = (.ok (), t') := by
  rw [makeDirectories_of_missing parent fuel missing, if_neg (by simpa using some), made]
  dsimp only
  rw [made']
  rfl

theorem opened_of_makeFresh (grounded : t.Grounded) {directory : Path} {start : String}
    (made : t.makeFresh here directory start = (p, .ok t')) :
    ∃ top, t.Opened here p top ∧ t' = t.put top .directory := by
  unfold makeFresh at made
  dsimp only at made
  obtain ⟨rfl, new⟩ := Prod.mk.inj made
  exact opened_of_makeDirectory grounded new

variable (opened : t.Opened here p top) (same : (t.put top .directory).SameOutside top t')

include opened same

theorem Opened.entry?_eq (outside : ¬Beneath top place) :
    t'.entry? place = if place = top then some .directory else t.entry? place := by
  rw [same place outside, entry?_put opened.below]

theorem Opened.resolve_eq (follow : Bool) :
    t'.resolve here p follow = .ok (.found top .directory) := by
  obtain ⟨directory, name, slash, rfl, leads⟩ := opened.leads
  have kept : Keeps [] t t' := by
    intro place e found _
    have outside : ¬Beneath (directory ++ [name]) place := by
      rintro ⟨names, -, rfl⟩
      rw [opened.empty names] at found
      cases found
    rw [opened.entry?_eq same outside, if_neg, found]
    rintro rfl
    have none := opened.empty []
    rw [List.append_nil, found] at none
    cases none
  rw [resolve_eq_ok_iff] at leads ⊢
  have made : t'.entry? (directory ++ [name]) = some .directory := by
    rw [opened.entry?_eq same (not_beneath_self _), if_pos rfl]
  exact ⟨leads.1, kept.walk_made (by simp) leads.2 made⟩

theorem Opened.find_eq : t'.find here p = .ok (top, .directory) :=
  find_eq_ok_iff.mpr (opened.resolve_eq same true)

/-- When the directory is removed, all is as it was before it was made. -/
theorem Opened.entry?_removePath : entry? (t'.removePath here p) = t.entry? := by
  unfold removePath
  rw [opened.resolve_eq same false]
  funext place
  rw [entry?_remove opened.below]
  by_cases inside : top <+: place
  · obtain ⟨names, rfl⟩ := inside
    rw [if_pos (List.prefix_append ..), opened.empty]
  · have outside : ¬Beneath top place := by
      rintro ⟨names, -, rfl⟩
      exact inside (List.prefix_append ..)
    have other : place ≠ top := by
      rintro rfl
      exact inside List.prefix_rfl
    rw [if_neg inside, opened.entry?_eq same outside, if_neg other]

end DeclBundle.FileTree
