import DeclBundle.Engine.Compiler
import DeclBundle.Proofs.Engine.Staging
import DeclBundle.Proofs.Files.Frame
import DeclBundle.Proofs.World

namespace DeclBundle

structure World.Beside (w t : World) : Prop where
  calls : t.calls = w.calls
  directory : t.directory = w.directory
  compiler : t.compiler = w.compiler

theorem World.Beside.trans {w t u : World} (first : w.Beside t) (second : t.Beside u) : w.Beside u :=
  ⟨second.calls.trans first.calls, second.directory.trans first.directory,
    second.compiler.trans first.compiler⟩

theorem isVoid_eq (piece : List Char) :
    Path.isVoid piece = (String.ofList piece = "" || String.ofList piece = ".") := by
  have same (s : String) : (String.ofList piece = s) = (piece = s.toList) := by
    rw [← String.toList_inj, String.toList_ofList]
  simp [Path.isVoid, same]

namespace FileTree

theorem names_of_steps {ps : List (List Char)} {ns : List String}
    (steps : ps.filterMap Path.stepOf = ns.map .name) :
    ".." ∉ ps.map String.ofList ∧ namesOf (ps.map String.ofList) = ns := by
  induction ps generalizing ns with
  | nil =>
    obtain rfl : ns = [] := by simpa using steps.symm
    exact ⟨by simp, rfl⟩
  | cons piece ps ih =>
    have dropped (void : Path.isVoid piece) :
        namesOf ((piece :: ps).map String.ofList) = namesOf (ps.map String.ofList) := by
      unfold namesOf
      rw [isVoid_eq] at void
      rw [List.map_cons, List.filter_cons_of_neg (by simp only [void]; decide)]
    have kept (notVoid : Path.isVoid piece = false) :
        namesOf ((piece :: ps).map String.ofList) =
          String.ofList piece :: namesOf (ps.map String.ofList) := by
      unfold namesOf
      rw [isVoid_eq] at notVoid
      rw [List.map_cons, List.filter_cons_of_pos (by simp only [notVoid]; decide)]
    by_cases up : piece = ['.', '.']
    · rw [List.filterMap_cons_some (b := .parent) (by simp [Path.stepOf, Path.isVoid, up])] at steps
      cases ns <;> simp at steps
    · have notUp : ".." ≠ String.ofList piece := by
        intro same
        apply up
        simpa using congrArg String.toList same.symm
      cases void : Path.isVoid piece with
      | true =>
        rw [List.filterMap_cons_none (by simp [Path.stepOf, void])] at steps
        obtain ⟨down, names⟩ := ih steps
        exact ⟨by simpa [notUp] using down, by rw [dropped void, names]⟩
      | false =>
        rw [List.filterMap_cons_some (b := .name (String.ofList piece))
          (by simp [Path.stepOf, void, up])] at steps
        obtain ⟨n, ns, rfl, first, rest⟩ := List.map_eq_cons_iff.mp steps.symm
        obtain ⟨down, names⟩ := ih rest.symm
        rw [Step.name.inj first]
        exact ⟨by simpa [notUp] using down, by rw [kept void, names]⟩

theorem named_of_makeFresh (t : FileTree) (here : Place) (directory : Path) {start : String}
    (clean : '/' ∉ start.toList) :
    ∃ n, IsName n ∧ (t.makeFresh here directory start).1 = directory.join ⟨n⟩ := by
  obtain ⟨taken, fresh⟩ : ∃ taken, (t.makeFresh here directory start).1 =
      directory.join ⟨freshName taken (t.entries.length + 1) (start ++ "STAGE")⟩ := ⟨_, rfl⟩
  obtain ⟨dashes, name, dashed⟩ := freshName_eq taken (t.entries.length + 1) (start ++ "STAGE")
  have long : 2 < ("STAGE" ++ dashes).length := by
    rw [String.length_append]
    exact Nat.lt_of_lt_of_le (by decide : 2 < "STAGE".length) (Nat.le_add_right ..)
  refine ⟨_, ?_, fresh⟩
  rw [name, String.append_assoc]
  exact isName_append_ending clean (by simp [dashed]) long

end FileTree

namespace CompilerEngine

/-- A staging directory below which there are no links, and without files where the output goes. -/
structure Stage (t : FileTree) (here : Place) (staging : Path) (top : Place) : Prop where
  stands : t.find here staging = .ok (top, .directory)
  free : t.LinkFree top
  bare : ∀ names e, t.entry? (top ++ "out" :: names) = some e → e.isFile = false

variable {t t' : FileTree} {here : Place} {staging : Path} {top : Place}

theorem Stage.widen (stage : Stage t here staging top) (widens : t.Widens t') :
    Stage t' here staging top where
  stands := widens.kept.find stage.stands (by simp [Entry.isFile])
  free := by
    intro names target some link
    rcases widens.added _ _ link with old | directory
    · exact stage.free names target some old
    · cases directory
  bare := by
    intro names e found
    rcases widens.added _ _ found with old | rfl
    · exact stage.bare names e old
    · rfl

theorem Stage.write (stage : Stage t here staging top) {first : String} {names : List String}
    (apart : first ≠ "out") {touched : List Place} {bytes : ByteArray} {executable : Bool}
    (kept : t.Keeps touched (t.put (top ++ first :: names) (.file bytes executable))) :
    Stage (t.put (top ++ first :: names) (.file bytes executable)) here staging top where
  stands := kept.find stage.stands (by simp [Entry.isFile])
  free := by
    intro others target some link
    rw [FileTree.entry?_put (by simp)] at link
    split at link
    · cases link
    · exact stage.free others target some link
  bare := by
    intro others e found
    have other : top ++ "out" :: others ≠ top ++ first :: names := by
      intro same
      exact apart (List.cons.inj (List.append_cancel_left same)).1.symm
    rw [FileTree.entry?_put (by simp), if_neg other] at found
    exact stage.bare others e found

theorem place_eq (stands : t.find here staging = .ok (top, .directory)) (free : t.LinkFree top)
    {p : Path} {place : Place} (leads : t.LeadsTo here p place) {rest : List (List Char)}
    (some : rest ≠ []) (rooted : p.isRooted = staging.isRooted)
    (below : p.pieces = staging.pieces ++ rest) {names : List String}
    (steps : rest.filterMap Path.stepOf = names.map .name) :
    place = top ++ names ∧ ∃ last, rest.getLast? = .some last ∧ Path.isVoid last = false := by
  obtain ⟨down, same⟩ := FileTree.names_of_steps steps
  have pieces : FileTree.pieces p = FileTree.pieces staging ++ rest.map String.ofList := by
    have strings (q : Path) : FileTree.pieces q = q.pieces.map String.ofList := rfl
    rw [strings, strings, below, List.map_append]
  obtain ⟨place, name, last, named⟩ :=
    leads.place_eq stands free down (by simpa using some) rooted pieces
  refine ⟨by rw [place, same], ?_⟩
  obtain ⟨piece, last', rfl⟩ : ∃ piece, rest.getLast? = .some piece ∧ String.ofList piece = name := by
    simpa [List.getLast?_map] using last
  refine ⟨piece, last', ?_⟩
  rw [isVoid_eq, ← Bool.not_eq_true]
  intro void
  unfold FileTree.namesOf at named
  rw [List.filter_cons_of_neg (by simp only [void]; decide)] at named
  contradiction

structure Opens (w : World) (staging : Path) (top : Place) (t : World) : Prop where
  beside : w.Beside t
  tidy : staging.Tidy
  rooted : staging.isRooted
  opened : w.tree.Opened w.directory staging top
  made : t.tree = w.tree.put top .directory

theorem Opens.stage {w t : World} (opens : Opens w staging top t) :
    Stage t.tree w.directory staging top := by
  have empty (names : List String) (some : names ≠ []) : t.tree.entry? (top ++ names) = none := by
    have other : top ++ names ≠ top := by simpa using some
    rw [opens.made, FileTree.entry?_put opens.opened.below, if_neg other, opens.opened.empty]
  refine ⟨?_, ?_, ?_⟩
  · rw [opens.made]
    exact opens.opened.find_eq (.refl top _)
  · intro names target some link
    rw [empty names some] at link
    cases link
  · intro names e there
    rw [empty _ (by simp)] at there
    cases there

theorem isRooted_path (place : Place) : place.path.isRooted := by
  simp [Place.path, Path.isRooted]

def Fresh (w : World) (directory staging : Path) : Prop :=
  ∃ n, IsName n ∧ staging = (w.directoryPath.join directory).join ⟨n⟩

def Chosen (root : Path) (w : World) (staging : Path) : Prop :=
  Fresh w (root.join "node_modules") staging ∨ Fresh w w.temporaryDirectory staging

theorem freshDirectory_eq (directory : Path) (start : String) (w : World) :
    freshDirectory directory start w =
      match w.tree.makeFresh w.directory (w.directoryPath.join directory) start with
      | (p, .ok tree) => .ok p { w with tree := tree }
      | (p, .error e) => .error (.staging p e) w := by
  have absolute : (if directory.isRooted then directory else w.directoryPath.join directory) =
      w.directoryPath.join directory := by
    split
    · rename_i rooted
      exact (Path.join_of_rooted _ rooted).symm
    · rfl
  unfold freshDirectory
  dsimp only
  generalize (if directory.isRooted then directory else w.directoryPath.join directory) = d at absolute ⊢
  subst absolute
  rfl

theorem isRooted_join_directoryPath (w : World) (directory : Path) :
    (w.directoryPath.join directory).isRooted := by
  have top := isRooted_path w.directory
  by_cases rooted : directory.isRooted
  · rwa [Path.join_of_rooted _ rooted]
  · rw [World.directoryPath, Path.isRooted_join rooted (Path.text_ne_of_rooted top), top]

theorem ends_freshDirectory (directory : Path) (start : String) (clean : '/' ∉ start.toList) (w : World) :
    Act.Ends (freshDirectory directory start) w
      (fun staging t => Fresh w directory staging ∧ w.Beside t ∧
        (w.tree.Grounded → ∃ top, Opens w staging top t))
      (fun e t => t = w ∧ ∃ p cause, e = .staging p cause) := by
  obtain ⟨n, name, place⟩ := w.tree.named_of_makeFresh w.directory (w.directoryPath.join directory) clean
  unfold Act.Ends
  rw [freshDirectory_eq]
  cases made : w.tree.makeFresh w.directory (w.directoryPath.join directory) start with
  | mk p result =>
    rw [made] at place
    obtain rfl : p = (w.directoryPath.join directory).join ⟨n⟩ := place
    cases result with
    | error e => exact ⟨rfl, _, _, rfl⟩
    | ok tree =>
      refine ⟨⟨n, name, rfl⟩, ⟨rfl, rfl, rfl⟩, fun grounded => ?_⟩
      obtain ⟨top, opened, same⟩ := FileTree.opened_of_makeFresh grounded made
      have rooted := isRooted_join_directoryPath w directory
      refine ⟨top, ⟨rfl, rfl, rfl⟩, Path.tidy_join_name _ name, ?_, opened, same⟩
      rw [Path.isRooted_join (Path.relative_ofName name) (Path.text_ne_of_rooted rooted), rooted]

theorem ends_stagingDirectory (root : Path) (w : World) :
    Act.Ends (stagingDirectory root) w
      (fun staging t => Chosen root w staging ∧ w.Beside t ∧
        (w.tree.Grounded → ∃ top, Opens w staging top t))
      (fun _ t => w.Logs t) := by
  have packages := ends_freshDirectory (root.join "node_modules") ".dtsemit-" (by decide) w
  have temporary (t : World) (logs : w.Logs t) :
      Act.Ends (do freshDirectory (← get).temporaryDirectory "dtsemit-") t
        (fun staging t => Chosen root w staging ∧ w.Beside t ∧
          (w.tree.Grounded → ∃ top, Opens w staging top t)) (fun _ t => w.Logs t) := by
    obtain ⟨log, rfl⟩ := logs
    rw [Act.ends_bind, Act.ends_get]
    apply (ends_freshDirectory _ "dtsemit-" (by decide) _).mono
    · intro staging u made
      obtain ⟨fresh, ⟨calls, directory, compiler⟩, opens⟩ := made
      refine ⟨.inr fresh, ⟨calls, directory, compiler⟩, fun grounded => ?_⟩
      obtain ⟨top, -, tidy, rooted, opened, made⟩ := opens grounded
      exact ⟨top, ⟨calls, directory, compiler⟩, tidy, rooted, opened, made⟩
    · intro e u failed
      exact failed.1 ▸ ⟨log, rfl⟩
  unfold stagingDirectory
  simp only [Act.ends_bind, Act.ends_get]
  split
  · rw [Act.ends_bind, Act.ends_get]
    cases run : freshDirectory (root.join "node_modules") ".dtsemit-" w with
    | ok staging t =>
      obtain ⟨fresh, made⟩ := packages.ok run
      simp only [Act.outcome, run, Act.ends_bind, Act.ends_set, Act.ends_pure]
      exact ⟨.inl fresh, made⟩
    | error e t =>
      obtain ⟨rfl, p, cause, rfl⟩ := packages.error run
      simp only [Act.outcome, run]
      rw [Act.ends_bind, World.ends_note]
      exact temporary _ (World.logs_addNote ..)
  · exact temporary w w.logs_refl

def stagedNames (root p : Path) : List String := "overlay" :: Staging.overlayNames root p

def allStagedNames (root : Path) (sources : List (Path × SourceText)) : List (List String) :=
  sources.filterMap fun (p, text) =>
    match text with
    | .onDisk => none
    | .inMemory _ => some (stagedNames root p)

theorem isName_overlay : IsName "overlay" := by decide

variable {overlay : Path}

theorem stage_place {root p : Path} (rootNormal : root.IsNormal) (normal : p.IsNormal)
    (stage : Stage t here staging top) (tidy : staging.Tidy) (under : overlay = staging.join "overlay")
    {place : Place} (leads : t.LeadsTo here (overlay.join (Staging.relative root p)) place) :
    place = top ++ stagedNames root p ∧ Staging.overlayNames root p ≠ [] := by
  obtain ⟨relative, steps⟩ := Staging.relative_spec rootNormal normal
  have tidyOverlay : overlay.Tidy := under ▸ Path.tidy_join_name _ isName_overlay
  let rest := "overlay".toList :: (Staging.relative root p).pieces
  have below : (overlay.join (Staging.relative root p)).pieces = staging.pieces ++ rest := by
    rw [Path.pieces_join tidyOverlay relative, under, Path.pieces_join_name tidy isName_overlay,
      List.append_assoc]
    rfl
  have steps' : rest.filterMap Path.stepOf = (stagedNames root p).map .name := by
    have own : Path.stepOf "overlay".toList = some (.name "overlay") := by decide
    rw [List.filterMap_cons_some own, steps]
    rfl
  have rooted : (overlay.join (Staging.relative root p)).isRooted = staging.isRooted := by
    rw [Path.isRooted_join relative tidyOverlay.text_ne, under,
      Path.isRooted_join (Path.relative_ofName isName_overlay) tidy.text_ne]
  obtain ⟨place, last, ends, notVoid⟩ :=
    place_eq stage.stands stage.free leads (by simp [rest]) rooted below steps'
  refine ⟨place, fun none => ?_⟩
  rw [none, List.map_nil, List.filterMap_eq_nil_iff] at steps
  have member : last ∈ (Staging.relative root p).pieces := by
    rw [List.getLast?_cons_of_ne_nil (Path.pieces_ne_nil _)] at ends
    exact List.mem_of_getLast? ends
  obtain ⟨step, some⟩ := Path.exists_stepOf notVoid
  cases some.symm.trans (steps last member)

def Staged (t : FileTree) (here : Place) (overlay : Path) (top : Place) (root p : Path)
    (text : String) : Prop :=
  ∃ executable, t.find here (overlay.join (Staging.relative root p)) =
    .ok (top ++ stagedNames root p, .file text.toUTF8 executable)

theorem Staged.keep {root p : Path} {text : String} (staged : Staged t here overlay top root p text)
    {touched : List Place} (kept : t.Keeps touched t') (apart : top ++ stagedNames root p ∉ touched) :
    Staged t' here overlay top root p text := by
  obtain ⟨executable, found⟩ := staged
  exact ⟨executable, kept.find found fun _ => apart⟩

theorem ends_makePath (task : FileTask) (p : Path) (w : World) :
    Act.Ends (World.makePath task p) w (fun _ t => w.Beside t ∧ w.tree.Widens t.tree)
      (fun _ t => w.Beside t) := by
  have widens := FileTree.widens_makePath w.tree w.directory p
  rw [World.ends_makePath]
  refine ⟨fun tree made => ?_, fun _ _ _ => ⟨rfl, rfl, rfl⟩⟩
  rw [made] at widens
  exact ⟨⟨rfl, rfl, rfl⟩, widens⟩

def makeAbove (staged : Path) : Act World Unit :=
  match staged.parent? with
  | some directory => World.makePath (.makeStaged directory) directory
  | none => pure ()

theorem ends_makeAbove (staged : Path) (w : World) :
    Act.Ends (makeAbove staged) w (fun _ t => w.Beside t ∧ w.tree.Widens t.tree)
      (fun _ t => w.Beside t) := by
  unfold makeAbove
  split
  · exact ends_makePath ..
  · rw [Act.ends_pure]
    exact ⟨⟨rfl, rfl, rfl⟩, .refl _⟩

theorem stageSources_onDisk (root overlay p : Path) (rest : List (Path × SourceText)) :
    stageSources root overlay ((p, .onDisk) :: rest) = stageSources root overlay rest := rfl

attribute [local irreducible] Path.join Path.parent? Staging.relative World.makePath World.writeText in
theorem stageSources_inMemory (root overlay p : Path) (text : String)
    (rest : List (Path × SourceText)) :
    stageSources root overlay ((p, .inMemory text) :: rest) = (do
      makeAbove (overlay.join (Staging.relative root p))
      World.writeText (.stage (overlay.join (Staging.relative root p)))
        (overlay.join (Staging.relative root p)) text
      stageSources root overlay rest) := by
  let written : Act World Unit := do
    World.writeText (.stage (overlay.join (Staging.relative root p)))
      (overlay.join (Staging.relative root p)) text
    stageSources root overlay rest
  change (match (overlay.join (Staging.relative root p)).parent? with
    | some directory => do
      World.makePath (.makeStaged directory) directory
      written
    | none => written) = _
  unfold makeAbove
  cases (overlay.join (Staging.relative root p)).parent? <;> rfl

/-- What is staged is found afterwards, unless another source is staged in its place. -/
theorem ends_stageSources {root : Path} (rootNormal : root.IsNormal) (tidy : staging.Tidy)
    (under : overlay = staging.join "overlay") {sources : List (Path × SourceText)}
    (normal : ∀ source ∈ sources, source.1.IsNormal) {w : World}
    (stage : Stage w.tree w.directory staging top) :
    Act.Ends (stageSources root overlay sources) w
      (fun _ t => w.Beside t ∧ Stage t.tree w.directory staging top ∧
        w.tree.Keeps ((allStagedNames root sources).map (top ++ ·)) t.tree ∧
        ∀ p text, (p, .inMemory text) ∈ sources → Staging.overlayNames root p ≠ [] ∧
          ((allStagedNames root sources).Nodup → Staged t.tree w.directory overlay top root p text))
      (fun _ t => t.calls = w.calls) := by
  -- What is staged next is a place of its own if names are distinct, and so leaves alone what was staged before.
  induction sources generalizing w with
  | nil =>
    change Act.Ends (pure ()) w _ _
    rw [Act.ends_pure]
    exact ⟨⟨rfl, rfl, rfl⟩, stage, .refl _ _, by simp⟩
  | cons source rest ih =>
    obtain ⟨p, text⟩ := source
    have normal' : ∀ source ∈ rest, source.1.IsNormal := fun source member =>
      normal source (by simp [member])
    cases text with
    | onDisk =>
      refine (ih normal' stage).mono ?_ fun _ _ => id
      rintro _ t ⟨beside, stage', kept, staged⟩
      refine ⟨beside, stage', kept, fun q text member => ?_⟩
      rcases List.mem_cons.mp member with same | member
      · cases same
      · exact staged q text member
    | inMemory text =>
      rw [stageSources_inMemory, Act.ends_bind]
      refine (ends_makeAbove ..).mono ?_ fun _ _ beside => beside.calls
      rintro _ t ⟨beside, widens⟩
      have stage' := stage.widen widens
      rw [← beside.directory] at stage'
      rw [Act.ends_bind, World.ends_writeText]
      refine ⟨fun tree written => ?_, fun _ _ => beside.calls⟩
      obtain ⟨place, executable, leads, below, rfl, kept, found⟩ := FileTree.exists_of_write written
      obtain ⟨rfl, some⟩ := stage_place rootNormal (normal _ List.mem_cons_self) stage' tidy under leads
      have stage'' := stage'.write (by decide) kept
      refine (ih normal' stage'').mono ?_ fun _ _ same => same.trans beside.calls
      rintro _ u ⟨beside', stage, kept', staged⟩
      have names : allStagedNames root ((p, .inMemory text) :: rest) =
          stagedNames root p :: allStagedNames root rest := rfl
      rw [beside.directory] at stage staged
      refine ⟨beside.trans ⟨beside'.calls, beside'.directory, beside'.compiler⟩, stage,
        widens.kept.trans (kept.trans kept'), fun q text' member => ?_⟩
      rcases List.mem_cons.mp member with same | member
      · cases same
        refine ⟨some, fun distinct => ?_⟩
        rw [names, List.nodup_cons] at distinct
        have own : Staged (t.tree.put (top ++ stagedNames root p) (.file text.toUTF8 executable))
            t.directory overlay top root p text := ⟨executable, found⟩
        rw [beside.directory] at own
        apply own.keep kept'
        simpa using distinct.1
      · obtain ⟨some', found'⟩ := staged q text' member
        refine ⟨some', fun distinct => found' ?_⟩
        rw [names, List.nodup_cons] at distinct
        exact distinct.2

end CompilerEngine

end DeclBundle
