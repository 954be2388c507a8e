import DeclBundle.Proofs.Files.Walk
import Mathlib.Data.List.Induction

namespace DeclBundle.FileTree

variable {t t' t'' : FileTree} {touched : List Place} {here place : Place} {p : Path}

def Spelled (p : Path) : Prop := p.text ≠ "" ∧ '\x00' ∉ p.text.toList

theorem resolve_eq_ok_iff {follow : Bool} {target : Target} :
    t.resolve here p follow = .ok target ↔ Spelled p ∧
      t.walk follow linkLimit (if p.isRooted then [] else here) (pieces p) = .ok target := by
  unfold resolve Spelled
  by_cases empty : p.text = ""
  · simp [empty]
  · by_cases null : '\x00' ∈ p.text.toList
    · simp [empty, null]
    · simp [empty, null]

theorem find_eq_ok_iff {e : Entry} :
    t.find here p = .ok (place, e) ↔ t.resolve here p true = .ok (.found place e) := by
  unfold find
  split <;> simp_all

theorem Keeps.find {e : Entry} (kept : Keeps touched t t') (found : t.find here p = .ok (place, e))
    (apart : e.isFile → place ∉ touched) : t'.find here p = .ok (place, e) := by
  rw [find_eq_ok_iff, resolve_eq_ok_iff] at found ⊢
  exact ⟨found.1, kept.walk found.2 apart⟩

def LeadsTo (t : FileTree) (here : Place) (p : Path) (place : Place) : Prop :=
  ∃ target, t.resolve here p true = .ok target ∧ target.filePlace? = some place

theorem exists_of_write {bytes : ByteArray} (written : t.write here p bytes = .ok t') :
    ∃ place executable, t.LeadsTo here p place ∧ place ≠ [] ∧
      t' = t.put place (.file bytes executable) ∧ Keeps [place] t t' ∧
      t'.find here p = .ok (place, .file bytes executable) := by
  obtain ⟨target, place, executable, leads, file, rfl⟩ : ∃ target place executable,
      t.resolve here p true = .ok target ∧ target.filePlace? = some place ∧
        t.put place (.file bytes executable) = t' := by
    unfold write at written
    split at written
    · cases written
    · rename_i place old executable leads
      exact ⟨_, place, executable, leads, rfl, Except.ok.inj written⟩
    · cases written
    · rename_i directory name slash leads
      cases slash with
      | true => cases written
      | false => exact ⟨_, directory ++ [name], false, leads, rfl, Except.ok.inj written⟩
  obtain ⟨spelled, way⟩ := resolve_eq_ok_iff.mp leads
  obtain ⟨below, free⟩ := (stands_of_walk way).free file
  have kept := keeps_put below (.file bytes executable) free
  refine ⟨place, executable, ⟨target, leads, file⟩, below, rfl, kept, ?_⟩
  rw [find_eq_ok_iff, resolve_eq_ok_iff]
  exact ⟨spelled, kept.walk_written way file (by rw [entry?_put below, if_pos rfl])⟩

structure Widens (t t' : FileTree) : Prop where
  kept : Keeps [] t t'
  added : ∀ place e, t'.entry? place = some e → t.entry? place = some e ∨ e = .directory

theorem Widens.refl (t : FileTree) : t.Widens t := ⟨.refl [] t, fun _ _ => .inl⟩

theorem Widens.trans (first : t.Widens t') (second : t'.Widens t'') : t.Widens t'' := by
  refine ⟨first.kept.trans second.kept, fun place e found => ?_⟩
  rcases second.added place e found with found | directory
  · exact first.added place e found
  · exact .inr directory

theorem widens_put (below : place ≠ []) (missing : t.entry? place = none) :
    t.Widens (t.put place .directory) := by
  refine ⟨keeps_put_of_missing below missing _, fun other e found => ?_⟩
  rw [entry?_put below] at found
  split at found
  · exact .inr (Option.some.inj found).symm
  · exact .inl found

theorem missing_of_makeDirectory (made : t.makeDirectory here p = .ok t') :
    ∃ directory name slash, t.resolve here p false = .ok (.missing directory name slash) ∧
      t.entry? (directory ++ [name]) = none ∧ t' = t.put (directory ++ [name]) .directory := by
  unfold makeDirectory at made
  split at made
  · cases made
  · cases made
  · rename_i directory name slash leads
    exact ⟨directory, name, slash, leads, stands_of_walk (resolve_eq_ok_iff.mp leads).2,
      (Except.ok.inj made).symm⟩

theorem exists_of_makeDirectory (made : t.makeDirectory here p = .ok t') :
    ∃ place, place ≠ [] ∧ t.entry? place = none ∧ t' = t.put place .directory ∧ t.Widens t' ∧
      t'.find here p = .ok (place, .directory) := by
  obtain ⟨directory, name, slash, leads, none, rfl⟩ := missing_of_makeDirectory made
  obtain ⟨spelled, way⟩ := resolve_eq_ok_iff.mp leads
  have below : directory ++ [name] ≠ [] := by simp
  have widens := widens_put below none
  refine ⟨directory ++ [name], below, none, rfl, widens, ?_⟩
  rw [find_eq_ok_iff, resolve_eq_ok_iff]
  exact ⟨spelled, widens.kept.walk_made (fun _ => rfl) way (by rw [entry?_put below, if_pos rfl])⟩

theorem widens_makeDirectory (made : t.makeDirectory here p = .ok t') : t.Widens t' := by
  obtain ⟨-, -, -, -, widens, -⟩ := exists_of_makeDirectory made
  exact widens

section Missing

variable {directory : Place} {name : String} {slash : Bool}

theorem find_of_missing (leads : t.resolve here p true = .ok (.missing directory name slash)) :
    t.find here p = .error .notFound := by
  unfold find
  rw [leads]

theorem write_of_missing (leads : t.resolve here p true = .ok (.missing directory name false))
    (bytes : ByteArray) : t.write here p bytes = .ok (t.put (directory ++ [name]) (.file bytes false)) := by
  unfold write
  rw [leads]
  rfl

theorem makeDirectory_of_missing (leads : t.resolve here p false = .ok (.missing directory name slash)) :
    t.makeDirectory here p = .ok (t.put (directory ++ [name]) .directory) := by
  unfold makeDirectory
  rw [leads]

theorem makeFresh_of_missing {parent : Path} {start : String} (staging : parent.join ⟨start ++ "STAGE"⟩ = p)
    (leads : t.resolve here p false = .ok (.missing directory name slash)) :
    t.makeFresh here parent start = (p, .ok (t.put (directory ++ [name]) .directory)) := by
  subst staging
  unfold makeFresh freshName
  simp only [leads, Bool.false_eq_true, if_false, makeDirectory_of_missing leads]

end Missing

/-- How the making of a directory ends, after what came of it: one that is there already is as good as a new
one. -/
def settled (here : Place) (p : Path) (made : Except FileError FileTree) (t : FileTree) :
    Except FileError Unit × FileTree :=
  match made with
  | .ok u => (.ok (), u)
  | .error .alreadyExists =>
    if t.isDirectory here p then (.ok (), t) else (.error .alreadyExists, t)
  | .error e => (.error e, t)

theorem settled_snd (here : Place) (p : Path) (made : Except FileError FileTree) (t : FileTree) :
    made = .ok (settled here p made t).2 ∨ (settled here p made t).2 = t := by
  unfold settled
  split
  · exact .inl rfl
  · split <;> exact .inr rfl
  · exact .inr rfl

section MakeDirectories

variable {above : Path} (parent : p.parent? = some above) (fuel : Nat)
include parent

theorem makeDirectories_of_found (found : t.makeDirectory here p ≠ .error .notFound) :
    makeDirectories here (fuel + 1) p t = settled here p (t.makeDirectory here p) t := by
  simp only [makeDirectories, parent]
  cases made : t.makeDirectory here p with
  | ok u => rfl
  | error e =>
    cases e
    case notFound => exact absurd made found
    all_goals rfl

theorem makeDirectories_of_missing (missing : t.makeDirectory here p = .error .notFound) :
    makeDirectories here (fuel + 1) p t =
      if above.text.isEmpty then (.error .notFound, t)
      else match makeDirectories here fuel above t with
        | (.ok (), u) => settled here p (u.makeDirectory here p) u
        | failed => failed := by
  simp only [makeDirectories, parent, missing]
  rfl

end MakeDirectories

theorem makeDirectories_keeps {P : FileTree → Prop} (fuel : Nat) (start : P t)
    (made : ∀ u v, P u → u.makeDirectory here p = .ok v → P v)
    (above : ∀ q, p.parent? = some q → t.makeDirectory here p = .error .notFound →
      P (makeDirectories here fuel q t).2) : P (makeDirectories here (fuel + 1) p t).2 := by
  have settles (u : FileTree) (kept : P u) : P (settled here p (u.makeDirectory here p) u).2 := by
    rcases settled_snd here p (u.makeDirectory here p) u with new | old
    · exact made u _ kept new
    · rwa [old]
  cases parent : p.parent? with
  | none =>
    unfold makeDirectories
    rwa [parent]
  | some q =>
    by_cases missing : t.makeDirectory here p = .error .notFound
    · have deep := above q parent missing
      rw [makeDirectories_of_missing parent fuel missing]
      split
      · exact start
      · split
        · rename_i u done
          rw [done] at deep
          exact settles u deep
        · exact deep
    · rw [makeDirectories_of_found parent fuel missing]
      exact settles t start

theorem widens_makeDirectories (here : Place) (fuel : Nat) (p : Path) (t : FileTree) :
    t.Widens (makeDirectories here fuel p t).2 := by
  induction fuel generalizing p with
  | zero => exact .refl t
  | succ fuel ih =>
    refine makeDirectories_keeps fuel (.refl t) ?_ fun q _ _ => ih q
    intro u v widens made
    exact widens.trans (widens_makeDirectory made)

theorem widens_makePath (t : FileTree) (here : Place) (p : Path) : t.Widens (t.makePath here p).2 := by
  unfold makePath
  split
  · exact .refl t
  · exact widens_makeDirectories here _ p t

def Grounded (t : FileTree) : Prop :=
  ∀ place name e, t.entry? (place ++ [name]) = some e → t.entry? place = some .directory

theorem grounded_of_entries
    (each : ∀ place e, (place, e) ∈ t.entries → t.entry? place.dropLast = some .directory) :
    t.Grounded := by
  intro place name e found
  have known : t.entries.lookup (place ++ [name]) = some e := by
    unfold entry? at found
    rwa [if_neg (by simp)] at found
  obtain ⟨before, after, split, -⟩ := List.lookup_eq_some_iff.mp known
  have above := each (place ++ [name]) e (by simp [split])
  rwa [List.dropLast_concat] at above

theorem Grounded.missing_below (grounded : t.Grounded) (missing : t.entry? place = none)
    (names : List String) : t.entry? (place ++ names) = none := by
  induction names using List.reverseRecOn with
  | nil => rw [List.append_nil, missing]
  | append_singleton names name ih =>
    rw [← List.append_assoc]
    cases found : t.entry? (place ++ names ++ [name]) with
    | none => rfl
    | some e =>
      rw [grounded _ _ _ found] at ih
      cases ih

theorem Grounded.put (grounded : t.Grounded) (directory : Place) (name : String)
    (stands : t.entry? directory = some .directory) (other : t.entry? (directory ++ [name]) ≠ some .directory)
    (e : Entry) : (t.put (directory ++ [name]) e).Grounded := by
  intro above inner old found
  have below : directory ++ [name] ≠ [] := by simp
  rw [entry?_put below] at found ⊢
  by_cases same : above ++ [inner] = directory ++ [name]
  · obtain ⟨rfl, -⟩ := List.append_inj' same rfl
    rw [if_neg (by simp), stands]
  · rw [if_neg same] at found
    have known := grounded above inner old found
    rw [if_neg, known]
    rintro rfl
    exact other known

theorem Grounded.extend (grounded : t.Grounded) {more : List (Place × Entry)}
    (each : ∀ entry ∈ more, entry? (t.extend more) entry.1.dropLast = some .directory) :
    (t.extend more).Grounded := by
  intro place name e found
  rcases mem_of_entry?_extend found with old | new
  · exact keeps_extend t more _ _ (grounded place name e old) nofun
  · have above := each _ new
    rwa [List.dropLast_concat] at above

structure Spells (p : Path) (place : Place) : Prop where
  spelled : Spelled p
  rooted : p.isRooted
  pieces_eq : pieces p = "" :: place
  named : ∀ name ∈ place, LookedUp name

instance (p : Path) (place : Place) : Decidable (Spells p place) :=
  decidable_of_iff ((p.text ≠ "" ∧ '\x00' ∉ p.text.toList) ∧ p.isRooted ∧ pieces p = "" :: place ∧
    ∀ name ∈ place, LookedUp name) ⟨fun ⟨spelled, rooted, pieces_eq, named⟩ => ⟨spelled, rooted, pieces_eq, named⟩,
      fun spells => ⟨spells.spelled, spells.rooted, spells.pieces_eq, spells.named⟩⟩

theorem Grounded.walk_directories (grounded : t.Grounded) (named : ∀ name ∈ place, LookedUp name)
    (stands : t.entry? place = some .directory) (follow : Bool) (links : Nat) (rest : List String) :
    t.walk follow links [] (place ++ rest) = t.walk follow links place rest := by
  induction place using List.reverseRecOn generalizing rest with
  | nil => rfl
  | append_singleton place name ih =>
    have above : ∀ n ∈ place, LookedUp n := fun n member => named n (List.mem_append_left _ member)
    rw [List.append_assoc, ih above (grounded place name .directory stands), List.singleton_append,
      walk_directory (named name (by simp)) stands]

theorem Spells.resolve_eq (spells : Spells p place) (follow : Bool) :
    t.resolve here p follow = t.walk follow linkLimit [] place := by
  have empty : ¬p.text.isEmpty := by simpa using spells.spelled.1
  have null : ¬p.text.toList.contains '\x00' := by simpa using spells.spelled.2
  have void : ("" = "" || "" = ".") = true := rfl
  unfold resolve
  rw [if_neg empty, if_neg null, if_pos spells.rooted, spells.pieces_eq, walk_void void]

/-- Where every entry stands in a directory, a path that spells the place of one leads there. -/
theorem Grounded.resolve_found (grounded : t.Grounded) (spells : Spells p place) {e : Entry}
    (stands : t.entry? place = some e) (plain : ∀ target, e ≠ .link target) (follow : Bool) :
    t.resolve here p follow = .ok (.found place e) := by
  rw [spells.resolve_eq]
  cases e with
  | directory =>
    have way := grounded.walk_directories spells.named stands follow linkLimit []
    rw [List.append_nil] at way
    rw [way, FileTree.walk]
  | file bytes executable =>
    rcases List.eq_nil_or_concat place with rfl | ⟨directory, name, whole⟩
    · cases stands
    · rw [List.concat_eq_append] at whole
      subst whole
      have above : ∀ n ∈ directory, LookedUp n := fun n member => spells.named n (List.mem_append_left _ member)
      rw [grounded.walk_directories above (grounded directory name _ stands),
        walk_file (spells.named name (by simp)) stands]
      rfl
  | link target => exact absurd rfl (plain target)

theorem Grounded.find_found (grounded : t.Grounded) (spells : Spells p place) {e : Entry}
    (stands : t.entry? place = some e) (plain : ∀ target, e ≠ .link target) :
    t.find here p = .ok (place, e) :=
  find_eq_ok_iff.mpr (grounded.resolve_found spells stands plain true)

theorem Grounded.find_stuck (grounded : t.Grounded) (directory : Place) (name inner : String) (rest : List String)
    (spells : Spells p (directory ++ name :: inner :: rest)) (stands : t.entry? directory = some .directory)
    (missing : t.entry? (directory ++ [name]) = none) (follow : Bool) :
    t.resolve here p follow = .error .notFound ∧ t.find here p = .error .notFound := by
  have above : ∀ n ∈ directory, LookedUp n := fun n member => spells.named n (List.mem_append_left _ member)
  have further : inner ≠ "" := by
    rintro rfl
    exact (spells.named "" (by simp)).notVoid rfl
  have stuck (follow : Bool) : t.resolve here p follow = .error .notFound := by
    rw [spells.resolve_eq, grounded.walk_directories above stands,
      walk_missing (spells.named name (by simp)) missing, if_neg (by simp [further])]
  refine ⟨stuck follow, ?_⟩
  unfold find
  rw [stuck]

section New

variable (grounded : t.Grounded) (directory : Place) (name : String) (spells : Spells p (directory ++ [name]))
  (stands : t.entry? directory = some .directory) (missing : t.entry? (directory ++ [name]) = none)

include grounded spells stands missing

theorem Grounded.resolve_missing (follow : Bool) :
    t.resolve here p follow = .ok (.missing directory name false) := by
  have above : ∀ n ∈ directory, LookedUp n := fun n member => spells.named n (List.mem_append_left _ member)
  rw [spells.resolve_eq, grounded.walk_directories above stands,
    walk_missing (spells.named name (by simp)) missing]
  rfl

theorem Grounded.find_missing : t.find here p = .error .notFound :=
  find_of_missing (grounded.resolve_missing directory name spells stands missing true)

theorem Grounded.isDirectory_missing : t.isDirectory here p = false := by
  unfold isDirectory
  rw [grounded.find_missing directory name spells stands missing]

theorem Grounded.write_missing (bytes : ByteArray) :
    t.write here p bytes = .ok (t.put (directory ++ [name]) (.file bytes false)) :=
  write_of_missing (grounded.resolve_missing directory name spells stands missing true) bytes

theorem Grounded.makeDirectory_missing :
    t.makeDirectory here p = .ok (t.put (directory ++ [name]) .directory) :=
  makeDirectory_of_missing (grounded.resolve_missing directory name spells stands missing false)

theorem Grounded.makeFresh_missing {parent : Path} {start : String} (staging : parent.join ⟨start ++ "STAGE"⟩ = p) :
    t.makeFresh here parent start = (p, .ok (t.put (directory ++ [name]) .directory)) :=
  makeFresh_of_missing staging (grounded.resolve_missing directory name spells stands missing false)

end New

theorem freshName_eq (taken : String → Bool) (fuel : Nat) (name : String) :
    ∃ dashes, freshName taken fuel name = name ++ dashes ∧ '/' ∉ dashes.toList := by
  induction fuel generalizing name with
  | zero => exact ⟨"", by simp [freshName], by simp⟩
  | succ fuel ih =>
    unfold freshName
    split
    · obtain ⟨dashes, same, clean⟩ := ih (name ++ "-")
      exact ⟨"-" ++ dashes, by rw [same, String.append_assoc], by simp [clean]⟩
    · exact ⟨"", by simp, by simp⟩

theorem LeadsTo.place_eq {base : Path} {top : Place} (leads : t.LeadsTo here p place)
    (stands : t.find here base = .ok (top, .directory)) (free : t.LinkFree top) {rest : List String}
    (down : ".." ∉ rest) (some : rest ≠ []) (rooted : p.isRooted = base.isRooted)
    (below : pieces p = pieces base ++ rest) :
    place = top ++ namesOf rest ∧ ∃ name, rest.getLast? = .some name ∧ namesOf [name] = [name] := by
  obtain ⟨target, leads, file⟩ := leads
  rw [find_eq_ok_iff, resolve_eq_ok_iff] at stands
  rw [resolve_eq_ok_iff, below, rooted] at leads
  obtain ⟨left, onward⟩ := walk_append stands.2
  rw [onward true rest some] at leads
  refine ⟨?_, getLast?_of_walk free down leads.2 file⟩
  rw [← place_of_walk free down leads.2, Target.place_of_filePlace? file]

theorem leadsTo_of_find {e : Entry} (found : t.find here p = .ok (place, e)) (file : e.isFile) :
    t.LeadsTo here p place := by
  refine ⟨_, find_eq_ok_iff.mp found, ?_⟩
  cases e with
  | file => rfl
  | directory => cases file
  | link => cases file

theorem entry?_of_find {e : Entry} (found : t.find here p = .ok (place, e)) (file : e.isFile) :
    t.entry? place = some e :=
  stands_of_walk (resolve_eq_ok_iff.mp (find_eq_ok_iff.mp found)).2 file

theorem isFile_iff : t.isFile here p ↔ ∃ place e, t.find here p = .ok (place, e) ∧ e.isFile := by
  unfold isFile
  split
  · rename_i place bytes executable found
    simp [found, Entry.isFile]
  · rename_i other
    simp only [Bool.false_eq_true, false_iff]
    rintro ⟨place, e, found, file⟩
    cases e with
    | file bytes executable => exact other _ _ _ found
    | directory => cases file
    | link => cases file

theorem readText_of_find {text : String} {executable : Bool}
    (found : t.find here p = .ok (place, .file text.toUTF8 executable)) :
    t.readText here p = .ok text := by
  have decoded : String.fromUTF8? text.toUTF8 = some text := by
    unfold String.fromUTF8?
    rw [String.toUTF8_eq_toByteArray, dif_pos text.isValidUTF8]
    rfl
  unfold readText
  rw [found]
  simp only [decoded]

theorem exists_find_of_readText {text : String} (read : t.readText here p = .ok text) :
    ∃ place bytes executable, t.find here p = .ok (place, .file bytes executable) := by
  unfold readText at read
  split at read
  · cases read
  · rename_i place bytes executable found
    exact ⟨place, bytes, executable, found⟩
  · cases read

end DeclBundle.FileTree
