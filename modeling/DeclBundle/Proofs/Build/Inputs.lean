import DeclBundle.Build.Inputs
import DeclBundle.Proofs.Files.Listing
import DeclBundle.Proofs.Files.Tree
import DeclBundle.Proofs.Path.Joined
import Mathlib

namespace DeclBundle.Inputs

def HasKnownEnding (name : String) : Prop :=
  ∃ stem, ∃ ending ∈ extensions, stem ≠ "" ∧ name = stem ++ "." ++ ending

/-- A way down from a place to a file that is looked for, through directories that are looked into. There are no
links on it. -/
structure Reaches (t : FileTree) (place : Place) (way : List String) : Prop where
  file : ∃ bytes executable, t.entry? (place ++ way) = some (.file bytes executable)
  known : ∃ name, way.getLast? = some name ∧ HasKnownEnding name
  through : ∀ above name below, way = above ++ name :: below → below ≠ [] →
    t.entry? (place ++ (above ++ [name])) = some .directory ∧ name ∉ skippedNames

/-- What a path stands for: itself if it leads to a file, and for a directory the files that are reached from there,
depth first and in each directory in the order of the names. -/
inductive Expands (w : World) (p : Path) : List Path → Prop
  | file (leads : w.isFile p) : Expands w p [p]
  | directory {top : Place} (leads : w.tree.find w.directory p = .ok (top, .directory))
    {ways : List (List String)} (sorted : ways.Pairwise (· < ·))
    (exact : ∀ way, way ∈ ways ↔ Reaches w.tree top way) : Expands w p (ways.map p.enter)

theorem hasKnownExtension_iff {p : Path} {name : String} (last : p.fileName? = some name) :
    hasKnownExtension p ↔ HasKnownEnding name := by
  have dotless : ∀ ending ∈ extensions, '.' ∉ ending.toList := by decide
  unfold hasKnownExtension HasKnownEnding
  simp only [Option.any_eq_true, decide_eq_true_eq]
  constructor
  · intro found
    obtain ⟨ending, own, known⟩ := found
    obtain ⟨_, same, more, suffix⟩ := (Path.extension?_eq_some_iff (dotless ending known)).mp own
    obtain rfl := Option.some.inj (last.symm.trans same)
    obtain ⟨stem, whole⟩ := suffix
    refine ⟨String.ofList stem, ending, known, ?_, ?_⟩
    · intro empty
      obtain rfl : stem = [] := by simpa using empty
      exact more whole.symm
    · rw [← String.toList_inj]
      simp [← whole]
  · intro found
    obtain ⟨stem, ending, known, some, rfl⟩ := found
    refine ⟨ending, (Path.extension?_eq_some_iff (dotless ending known)).mpr ⟨_, last, ?_, stem.toList, ?_⟩, known⟩
    · intro short
      have parts : stem.toList ++ '.' :: ending.toList = '.' :: ending.toList := by simpa using short
      exact some (by simpa using List.append_left_eq_self.mp parts)
    · simp

theorem hasKnownExtension_name {name : String} (isName : IsName name) :
    hasKnownExtension ⟨name⟩ ↔ HasKnownEnding name :=
  hasKnownExtension_iff (Path.fileName?_eq_some_iff.mpr ⟨[], Path.steps_ofName isName⟩)

theorem hasKnownExtension_join (p : Path) {name : String} (isName : IsName name) :
    hasKnownExtension (p.join ⟨name⟩) = hasKnownExtension ⟨name⟩ := by
  rw [Bool.eq_iff_iff, hasKnownExtension_name isName,
    hasKnownExtension_iff (Path.fileName?_join_name p isName)]

section Ways

variable (t : FileTree) (place : Place)

def waysFrom (name : String) (deeper : List (List String)) : List (List String) :=
  match t.entry? (place ++ [name]) with
  | some .directory => if name ∈ skippedNames then [] else deeper
  | some (.file _ _) => if hasKnownExtension ⟨name⟩ then [[]] else []
  | _ => []

def waysBelow : Nat → Place → List (List String)
  | 0, _ => []
  | fuel + 1, place => (t.names place).flatMap fun name =>
    (waysFrom t place name (waysBelow fuel (place ++ [name]))).map (name :: ·)

variable {t} {place}

theorem filesBelow_eq (wellFormed : t.WellFormed) (fuel : Nat) (place : Place) (p : Path) :
    filesBelow t fuel place p = (waysBelow t fuel place).map p.enter := by
  induction fuel generalizing place p with
  | zero => rfl
  | succ fuel ih =>
    unfold filesBelow waysBelow
    rw [List.map_flatMap]
    apply List.flatMap_congr
    intro name member
    have known := hasKnownExtension_join p (wellFormed.isName member)
    unfold waysFrom
    cases t.entry? (place ++ [name]) with
    | none => rfl
    | some e =>
      cases e with
      | file bytes executable =>
        dsimp only
        rw [known]
        split <;> rfl
      | directory =>
        dsimp only
        split
        · rfl
        · rw [ih, List.map_map]
          rfl
      | link target => rfl

theorem mem_waysFrom {name : String} {deeper : List (List String)} {way : List String} :
    way ∈ waysFrom t place name deeper ↔
      (t.entry? (place ++ [name]) = some .directory ∧ name ∉ skippedNames ∧ way ∈ deeper) ∨
      ((∃ bytes executable, t.entry? (place ++ [name]) = some (.file bytes executable)) ∧
        hasKnownExtension ⟨name⟩ ∧ way = []) := by
  unfold waysFrom
  split
  · split <;> simp_all
  · split <;> simp_all
  · simp_all

theorem pairwise_waysFrom {name : String} {deeper : List (List String)} (sorted : deeper.Pairwise (· < ·)) :
    (waysFrom t place name deeper).Pairwise (· < ·) := by
  unfold waysFrom
  split
  · split
    · exact .nil
    · exact sorted
  · split
    · exact List.pairwise_singleton ..
    · exact .nil
  · exact .nil

theorem pairwise_waysBelow (wellFormed : t.WellFormed) (fuel : Nat) (place : Place) :
    (waysBelow t fuel place).Pairwise (· < ·) := by
  induction fuel generalizing place with
  | zero => exact .nil
  | succ fuel ih =>
    refine List.pairwise_flatMap.mpr ⟨fun name _ => ?_, (wellFormed.pairwise_names place).imp ?_⟩
    · refine List.pairwise_map.mpr ((pairwise_waysFrom (ih (place ++ [name]))).imp ?_)
      intro way way' less
      exact List.cons_lt_cons_iff.mpr (.inr ⟨rfl, less⟩)
    · intro name name' less way member way' member'
      obtain ⟨_, -, rfl⟩ := List.mem_map.mp member
      obtain ⟨_, -, rfl⟩ := List.mem_map.mp member'
      exact List.cons_lt_cons_iff.mpr (.inl less)

theorem not_reaches_nil : ¬Reaches t place [] := by
  intro reaches
  obtain ⟨name, last, -⟩ := reaches.known
  cases last

theorem reaches_singleton {name : String} : Reaches t place [name] ↔
    (∃ bytes executable, t.entry? (place ++ [name]) = some (.file bytes executable)) ∧ HasKnownEnding name := by
  constructor
  · intro reaches
    obtain ⟨_, last, known⟩ := reaches.known
    obtain rfl := Option.some.inj last
    exact ⟨reaches.file, known⟩
  · intro here
    refine ⟨here.1, ⟨name, rfl, here.2⟩, ?_⟩
    intro above inner below parts some
    cases above with
    | nil => exact absurd (List.cons.inj parts).2.symm some
    | cons _ above => simp at parts

theorem reaches_cons {name : String} {way : List String} (goesOn : way ≠ []) : Reaches t place (name :: way) ↔
    t.entry? (place ++ [name]) = some .directory ∧ name ∉ skippedNames ∧ Reaches t (place ++ [name]) way := by
  have onward : place ++ name :: way = place ++ [name] ++ way := by simp
  have last : (name :: way).getLast? = way.getLast? := List.getLast?_cons_of_ne_nil goesOn
  -- A way goes through a directory first, and from there it is a way of its own.
  constructor
  · intro reaches
    obtain ⟨directory, kept⟩ := reaches.through [] name way rfl goesOn
    refine ⟨directory, kept, onward ▸ reaches.file, last ▸ reaches.known, ?_⟩
    intro above inner below parts more
    have deeper := reaches.through (name :: above) inner below (by rw [parts, List.cons_append]) more
    simpa using deeper
  · intro found
    obtain ⟨directory, kept, reaches⟩ := found
    refine ⟨onward ▸ reaches.file, last ▸ reaches.known, ?_⟩
    intro above inner below parts more
    cases above with
    | nil =>
      obtain ⟨rfl, rfl⟩ := List.cons.inj parts
      exact ⟨directory, kept⟩
    | cons first above =>
      obtain ⟨rfl, rest⟩ := List.cons.inj parts
      simpa using reaches.through above inner below rest more

theorem cons_mem_waysBelow {fuel : Nat} {name : String} {way : List String} :
    name :: way ∈ waysBelow t (fuel + 1) place ↔
      name ∈ t.names place ∧ way ∈ waysFrom t place name (waysBelow t fuel (place ++ [name])) := by
  rw [waysBelow, List.mem_flatMap]
  constructor
  · intro found
    obtain ⟨_, inside, member⟩ := found
    obtain ⟨_, onward, parts⟩ := List.mem_map.mp member
    obtain ⟨rfl, rfl⟩ := List.cons.inj parts
    exact ⟨inside, onward⟩
  · intro found
    exact ⟨name, found.1, List.mem_map_of_mem found.2⟩

theorem mem_waysBelow (wellFormed : t.WellFormed) {fuel : Nat} {place : Place}
    (deep : ∀ other ∈ t.entries.map Prod.fst, other.length < place.length + fuel) {way : List String} :
    way ∈ waysBelow t fuel place ↔ Reaches t place way := by
  -- Fuel runs out only where the tree has no entry that deep.
  induction fuel generalizing place way with
  | zero =>
    refine iff_of_false List.not_mem_nil fun reaches => ?_
    obtain ⟨bytes, executable, found⟩ := reaches.file
    have goesOn : way ≠ [] := fun stops => not_reaches_nil (stops ▸ reaches)
    have bound := deep _ (FileTree.mem_of_entry? (by simp [goesOn]) found)
    rw [List.length_append] at bound
    omega
  | succ fuel ih =>
    cases way with
    | nil => exact iff_of_false (by simp [waysBelow]) not_reaches_nil
    | cons name way =>
      have deeper : ∀ other ∈ t.entries.map Prod.fst, other.length < (place ++ [name]).length + fuel := by
        intro other member
        have bound := deep other member
        rw [List.length_append, List.length_singleton]
        omega
      have listed {e : Entry} (found : t.entry? (place ++ [name]) = some e) : name ∈ t.names place :=
        FileTree.mem_names.mpr (FileTree.mem_of_entry? (by simp) found)
      rw [cons_mem_waysBelow, mem_waysFrom, ih deeper]
      by_cases stops : way = []
      · subst stops
        rw [reaches_singleton]
        constructor
        · intro found
          obtain ⟨member, ⟨-, -, inner⟩ | ⟨file, known, -⟩⟩ := found
          · exact absurd inner not_reaches_nil
          · exact ⟨file, (hasKnownExtension_name (wellFormed.isName member)).mp known⟩
        · intro found
          obtain ⟨⟨bytes, executable, file⟩, known⟩ := found
          have member := listed file
          exact ⟨member, .inr ⟨⟨bytes, executable, file⟩,
            (hasKnownExtension_name (wellFormed.isName member)).mpr known, rfl⟩⟩
      · rw [reaches_cons stops]
        constructor
        · intro found
          obtain ⟨-, deeper | ⟨-, -, none⟩⟩ := found
          · exact deeper
          · exact absurd none stops
        · intro found
          exact ⟨listed found.1, .inl found⟩

end Ways

theorem length_lt_depthBound {t : FileTree} {place : Place} (member : place ∈ t.entries.map Prod.fst) :
    place.length < depthBound t := by
  have grows (entries : List (Place × Entry)) (n : Nat) :
      n ≤ entries.foldl (fun n other => max n other.1.length) n ∧
        ∀ place ∈ entries.map Prod.fst, place.length ≤ entries.foldl (fun n other => max n other.1.length) n := by
    induction entries generalizing n with
    | nil => simp
    | cons first rest ih =>
      obtain ⟨least, most⟩ := ih (max n first.1.length)
      refine ⟨(Nat.le_max_left ..).trans least, fun place member => ?_⟩
      rcases List.mem_cons.mp member with rfl | later
      · exact (Nat.le_max_right ..).trans least
      · exact most place later
  exact Nat.lt_succ_of_le ((grows t.entries 0).2 place member)

theorem expands_of_expand {w : World} (wellFormed : w.tree.WellFormed) {p : Path} {files : List Path}
    (expanded : expand w p = .ok files) : Expands w p files := by
  unfold expand at expanded
  split at expanded
  · rename_i place bytes executable found
    cases expanded
    exact .file (by simp [World.isFile, FileTree.isFile, found])
  · rename_i top found
    cases expanded
    rw [filesBelow_eq wellFormed]
    refine .directory found (pairwise_waysBelow wellFormed _ top) fun way => mem_waysBelow wellFormed ?_
    intro place member
    exact Nat.lt_add_left _ (length_lt_depthBound member)
  · cases expanded

theorem exists_error_expand_iff {w : World} {p : Path} :
    (∃ e, expand w p = .error e) ↔ ¬w.isFile p ∧ ¬w.isDirectory p := by
  unfold expand World.isFile World.isDirectory FileTree.isFile FileTree.isDirectory
  split <;> simp_all

theorem expandAll_nil (w : World) (root : Path) : expandAll w root [] = .ok [] := rfl

attribute [local irreducible] expand in
theorem expandAll_cons (w : World) (root p : Path) (rest : List Path) :
    expandAll w root (p :: rest) =
      match expand w (root.resolve p) with
      | .error e => .error e
      | .ok files =>
        match expandAll w root rest with
        | .error e => .error e
        | .ok more => .ok (files ++ more) := rfl

theorem exists_error_expandAll_iff {w : World} {root : Path} {inputs : List Path} :
    (∃ e, expandAll w root inputs = .error e) ↔
      ∃ p ∈ inputs, ¬w.isFile (root.resolve p) ∧ ¬w.isDirectory (root.resolve p) := by
  simp only [← exists_error_expand_iff]
  induction inputs with
  | nil => simp [expandAll_nil]
  | cons p rest ih =>
    rw [expandAll_cons, List.exists_mem_cons_iff, ← ih]
    cases expand w (root.resolve p) with
    | error e => simp
    | ok files => cases expandAll w root rest <;> simp

theorem expandAll_ok {w : World} (wellFormed : w.tree.WellFormed) {root : Path} {inputs files : List Path}
    (expanded : expandAll w root inputs = .ok files) : ∃ expansions,
      List.Forall₂ (fun p expansion => Expands w (root.resolve p) expansion) inputs expansions ∧
        files = expansions.flatten := by
  induction inputs generalizing files with
  | nil =>
    rw [expandAll_nil] at expanded
    cases expanded
    exact ⟨[], .nil, rfl⟩
  | cons p rest ih =>
    rw [expandAll_cons] at expanded
    split at expanded
    · cases expanded
    · rename_i first own
      split at expanded
      · cases expanded
      · rename_i more later
        cases expanded
        obtain ⟨expansions, each, rfl⟩ := ih later
        exact ⟨first :: expansions, .cons (expands_of_expand wellFormed own) each, rfl⟩

theorem distinct_append (ps : List Path) (p : Path) : distinct (ps ++ [p]) =
    if (distinct ps).any (·.same p) then distinct ps else distinct ps ++ [p] := by
  rw [distinct, List.foldl_append]
  rfl

theorem pairwise_distinct (ps : List Path) : (distinct ps).Pairwise fun p q => ¬p.same q := by
  induction ps using List.reverseRecOn with
  | nil => exact .nil
  | append_singleton ps p ih =>
    rw [distinct_append]
    split
    · exact ih
    · rename_i new
      refine List.pairwise_append.mpr ⟨ih, List.pairwise_singleton .., ?_⟩
      intro q member r last same
      obtain rfl := List.mem_singleton.mp last
      exact new (List.any_eq_true.mpr ⟨q, member, same⟩)

theorem distinct_eq (ps : List Path) : distinct ps = ps.eraseDupsBy Path.same := by
  have onward (seen : List Path) :
      ps.foldl (fun seen p => if seen.any (·.same p) then seen else seen ++ [p]) seen.reverse =
        List.eraseDupsBy.loop Path.same ps seen := by
    induction ps generalizing seen with
    | nil => rfl
    | cons p ps ih =>
      have turned : seen.reverse.any (·.same p) = seen.any (p.same ·) := by
        rw [List.any_reverse]
        congr 1
        funext q
        simp [Path.same, eq_comm]
      rw [List.foldl_cons, turned, List.eraseDupsBy.loop]
      cases seen.any (p.same ·) with
      | true => exact ih seen
      | false => simpa using ih (p :: seen)
  exact onward []

theorem collect_eq (root : Path) (inputs : List Path) (w : World) :
    (∃ e, expandAll w root inputs = .error e ∧ collect root inputs w = .error e w) ∨
      ∃ files w', expandAll w root inputs = .ok files ∧ collect root inputs w = .ok (distinct files) w' := by
  unfold collect
  simp only [bind, EStateM.bind, get, getThe, MonadStateOf.get, EStateM.get]
  cases expandAll w root inputs with
  | error e => exact .inl ⟨e, rfl, rfl⟩
  | ok files => exact .inr ⟨files, _, rfl, rfl⟩

/-- Collecting fails if some input is neither a file nor a directory, and only then. Else it gives what the inputs
stand for, one after the other, without repetitions. -/
theorem collect_exact {w : World} (wellFormed : w.tree.WellFormed) (root : Path) (inputs : List Path) :
    ((∃ e w', collect root inputs w = .error e w') ↔
      ∃ p ∈ inputs, ¬w.isFile (root.resolve p) ∧ ¬w.isDirectory (root.resolve p)) ∧
    ∀ files w', collect root inputs w = .ok files w' →
      files.Pairwise (fun p q => ¬p.same q) ∧
        ∃ expansions,
          List.Forall₂ (fun p expansion => Expands w (root.resolve p) expansion) inputs expansions ∧
            files = expansions.flatten.eraseDupsBy Path.same := by
  rw [← exists_error_expandAll_iff]
  rcases collect_eq root inputs w with ⟨e, expanded, collected⟩ | ⟨found, w', expanded, collected⟩
  · rw [expanded, collected]
    refine ⟨by simp, fun files w' done => ?_⟩
    cases done
  · obtain ⟨expansions, each, whole⟩ := expandAll_ok wellFormed expanded
    rw [expanded, collected]
    refine ⟨by simp, fun files w'' done => ?_⟩
    cases done
    exact ⟨pairwise_distinct found, expansions, each, by rw [distinct_eq, whole]⟩

def deskTree (bytes : ByteArray) : FileTree :=
  ⟨[(["desk"], .directory), (["desk", "a.ts"], .file bytes false), (["desk", "b.ts"], .link "a.ts"),
    (["desk", "dist"], .directory), (["desk", "dist", "c.ts"], .file bytes false)]⟩

def deskWorld : World := ⟨deskTree .empty, [], [], fun _ _ t => ⟨t, .empty, .empty, 0⟩, [], []⟩

section Desk

variable (bytes : ByteArray)

theorem wellFormed_desk : (deskTree bytes).WellFormed := by
  have places : (deskTree bytes).entries.map Prod.fst =
      [["desk"], ["desk", "a.ts"], ["desk", "b.ts"], ["desk", "dist"], ["desk", "dist", "c.ts"]] := rfl
  constructor <;> rw [places] <;> decide

theorem find_desk : (deskTree bytes).find [] "/desk" = .ok (["desk"], .directory) ∧
    (deskTree bytes).find [] "/desk/a.ts" = .ok (["desk", "a.ts"], .file bytes false) ∧
    (deskTree bytes).find [] "/desk/dist" = .ok (["desk", "dist"], .directory) := by
  simp only [FileTree.find_eq_ok_iff, FileTree.resolve_eq_ok_iff]
  exact ⟨⟨⟨by decide, by decide⟩, by cbv⟩, ⟨⟨by decide, by decide⟩, by cbv⟩, ⟨⟨by decide, by decide⟩, by cbv⟩⟩

theorem names_desk : (deskTree bytes).names ["desk"] = ["a.ts", "b.ts", "dist"] ∧
    (deskTree bytes).names ["desk", "dist"] = ["c.ts"] := by
  constructor
  · exact List.mergeSort_of_pairwise (by decide : ["a.ts", "b.ts", "dist"].Pairwise fun a b => !decide (b < a))
  · exact List.mergeSort_of_pairwise (List.pairwise_singleton ..)

theorem filesBelow_desk (fuel : Nat) : filesBelow (deskTree bytes) (fuel + 1) ["desk"] "/desk" = [⟨"/desk/a.ts"⟩] ∧
    filesBelow (deskTree bytes) (fuel + 1) ["desk", "dist"] "/desk/dist" = [⟨"/desk/dist/c.ts"⟩] := by
  obtain ⟨top, inner⟩ := names_desk bytes
  constructor
  · rw [filesBelow, top]
    rfl
  · rw [filesBelow, inner]
    rfl

end Desk

theorem expand_desk : expand deskWorld "/desk" = .ok ["/desk/a.ts"] ∧
    expand deskWorld "/desk/a.ts" = .ok ["/desk/a.ts"] ∧
    expand deskWorld "/desk/dist" = .ok ["/desk/dist/c.ts"] := by
  obtain ⟨top, file, inner⟩ := find_desk .empty
  unfold expand deskWorld
  dsimp only
  rw [top, file, inner]
  exact ⟨congrArg Except.ok (filesBelow_desk .empty _).1, rfl, congrArg Except.ok (filesBelow_desk .empty _).2⟩

theorem expandAll_desk : expandAll deskWorld "/desk" [".", "a.ts", "dist"] =
    .ok ["/desk/a.ts", "/desk/a.ts", "/desk/dist/c.ts"] := by
  obtain ⟨top, file, inner⟩ := expand_desk
  have targets : (Path.mk "/desk").resolve "." = "/desk" ∧ (Path.mk "/desk").resolve "a.ts" = "/desk/a.ts" ∧
      (Path.mk "/desk").resolve "dist" = "/desk/dist" := by
    decide
  rw [expandAll_cons, expandAll_cons, expandAll_cons, expandAll_nil, targets.1, targets.2.1, targets.2.2, top, file,
    inner]
  rfl

theorem collect_exact_desk : ∃ w', collect "/desk" [".", "a.ts", "dist"] deskWorld =
      .ok ["/desk/a.ts", "/desk/dist/c.ts"] w' ∧
    ∃ expansions, List.Forall₂ (fun p expansion => Expands deskWorld (Path.resolve "/desk" p) expansion)
        [".", "a.ts", "dist"] expansions ∧
      (["/desk/a.ts", "/desk/dist/c.ts"] : List Path) = expansions.flatten.eraseDupsBy Path.same := by
  have once : distinct ["/desk/a.ts", "/desk/a.ts", "/desk/dist/c.ts"] = ["/desk/a.ts", "/desk/dist/c.ts"] := by
    decide
  rcases collect_eq "/desk" [".", "a.ts", "dist"] deskWorld with ⟨e, failed, -⟩ | ⟨found, w', expanded, collected⟩
  · rw [expandAll_desk] at failed
    cases failed
  · rw [expandAll_desk] at expanded
    cases expanded
    rw [once] at collected
    exact ⟨w', collected, ((collect_exact (wellFormed_desk .empty) _ _).2 _ _ collected).2⟩

end DeclBundle.Inputs
