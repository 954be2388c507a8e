import DeclBundle.Proofs.Engine.Launch

namespace DeclBundle

namespace FileTree

/-- A directory was made at a place of the tree `t₀`, and nothing else has changed but what is below it, where
there are no links. -/
structure Inside (t₀ : FileTree) (top : Place) (t : FileTree) : Prop where
  same : (t₀.put top .directory).SameOutside top t
  free : t.LinkFree top

variable {t₀ t t' : FileTree} {here top place : Place} {staging p : Path} {ns : List String}

theorem Inside.put (inside : Inside t₀ top t) (beneath : Beneath top place) {e : Entry}
    (plain : ∀ target, e ≠ .link target) : Inside t₀ top (t.put place e) where
  same := inside.same.trans (sameOutside_put beneath e)
  free := by
    have below : place ≠ [] := by
      obtain ⟨names, some, rfl⟩ := beneath
      simp [some]
    intro names target some link
    rw [entry?_put below] at link
    split at link
    · exact plain target (Option.some.inj link)
    · exact inside.free names target some link

section Opened

variable (opened : t₀.Opened here staging top) (tidy : staging.Tidy) (inside : Inside t₀ top t)

include opened inside

theorem Inside.entry?_top : t.entry? top = some .directory := by
  rw [opened.entry?_eq inside.same (not_beneath_self top), if_pos rfl]

theorem Inside.beneath {e : Option Entry} (there : t.entry? (top ++ ns) = e)
    (other : e ≠ some .directory) : Beneath top (top ++ ns) := by
  refine ⟨ns, ?_, rfl⟩
  rintro rfl
  rw [List.append_nil, inside.entry?_top opened] at there
  exact other there.symm

include tidy

theorem Inside.place_eq (descends : staging.Descends ns p) {follow : Bool} {target : Target}
    (leads : t.resolve here p follow = .ok target) : target.place = top ++ ns := by
  have rooted := descends.isRooted_eq tidy
  obtain ⟨rest, parts, steps⟩ := descends
  obtain ⟨down, names⟩ := names_of_steps steps
  have pieces : FileTree.pieces p = FileTree.pieces staging ++ rest.map String.ofList := by
    have strings (q : Path) : FileTree.pieces q = q.pieces.map String.ofList := rfl
    rw [strings, strings, parts, List.map_append]
  rw [resolve_eq_ok_iff, rooted, pieces] at leads
  -- The walk to the staging directory ends there as it did at first; the rest goes down by names.
  cases rest with
  | nil =>
    obtain rfl : ns = [] := by simpa using steps.symm
    have stands := (resolve_eq_ok_iff.mp (opened.resolve_eq inside.same follow)).2
    rw [List.map_nil, List.append_nil, stands] at leads
    rw [← Except.ok.inj leads.2, List.append_nil]
    rfl
  | cons piece rest =>
    obtain ⟨left, onward⟩ :=
      walk_append (resolve_eq_ok_iff.mp (opened.resolve_eq inside.same true)).2
    rw [onward follow _ (by simp)] at leads
    rw [place_of_walk inside.free down leads.2, names]

theorem Inside.write (descends : staging.Descends ns p) {bytes : ByteArray}
    (written : t.write here p bytes = .ok t') : Inside t₀ top t' := by
  obtain ⟨place, executable, ⟨target, leads, file⟩, -, rfl, -, -⟩ := exists_of_write written
  obtain rfl : top ++ ns = place := by
    rw [← inside.place_eq opened tidy descends leads, Target.place_of_filePlace? file]
  obtain ⟨-, files⟩ := (stands_of_walk (resolve_eq_ok_iff.mp leads).2).free file
  refine inside.put (inside.beneath opened rfl ?_) (by simp)
  intro directory
  cases files _ directory

theorem Inside.makeDirectory (descends : staging.Descends ns p)
    (made : t.makeDirectory here p = .ok t') : Inside t₀ top t' := by
  obtain ⟨directory, name, slash, leads, none, rfl⟩ := missing_of_makeDirectory made
  have place : directory ++ [name] = top ++ ns := inside.place_eq opened tidy descends leads
  rw [place] at none ⊢
  exact inside.put (inside.beneath opened none (by simp)) (by simp)

theorem Inside.makeDirectories (fuel : Nat) (descends : staging.Descends ns p)
    (last : ns = [] → p = staging) : Inside t₀ top (makeDirectories here fuel p t).2 := by
  induction fuel generalizing p ns with
  | zero => exact inside
  | succ fuel ih =>
    refine makeDirectories_keeps fuel inside ?_ ?_
    · intro u v inside made
      exact inside.makeDirectory opened tidy descends made
    -- The staging directory itself stands, so what is missing is below it, and so is the next attempt.
    · intro above parent missing
      have some : ns ≠ [] := by
        intro none
        have there := opened.resolve_eq inside.same false
        rw [← last none] at there
        unfold FileTree.makeDirectory at missing
        rw [there] at missing
        cases missing
      obtain ⟨ms, n, rfl⟩ := (List.eq_nil_or_concat' ns).resolve_left some
      obtain ⟨above', parent', descends', last'⟩ := descends.exists_parent? tidy
      obtain rfl := Option.some.inj (parent'.symm.trans parent)
      exact ih descends' last'

theorem Inside.makePath (descends : staging.Descends ns p) (last : ns = [] → p = staging) :
    Inside t₀ top (t.makePath here p).2 := by
  unfold FileTree.makePath
  split
  · exact inside
  · exact inside.makeDirectories opened tidy _ descends last

end Opened

end FileTree

namespace World

structure Stays (w t : World) : Prop where
  files : t.tree.entry? = w.tree.entry?
  directory : t.directory = w.directory
  compiler : t.compiler = w.compiler

theorem stays_of_logs {w t : World} (logs : w.Logs t) : w.Stays t := by
  obtain ⟨log, rfl⟩ := logs
  exact ⟨rfl, rfl, rfl⟩

theorem Stays.trans {w t u : World} (first : w.Stays t) (second : t.Stays u) : w.Stays u :=
  ⟨second.files.trans first.files, second.directory.trans first.directory,
    second.compiler.trans first.compiler⟩

theorem Stays.grounded {w t : World} (stays : w.Stays t) (grounded : w.tree.Grounded) :
    t.tree.Grounded := by
  unfold FileTree.Grounded at grounded ⊢
  rwa [stays.files]

/-- Whenever the compiler is run on the configuration in a directory, it changes nothing but what is below
that directory. -/
def Contained (w : World) : Prop :=
  ∀ (count : Nat) (invocation : Invocation) (t : FileTree) (staging : Path) (top : Place),
    staging.Tidy → staging.isRooted → invocation.arguments =
      ["--project", (staging.join "tsconfig.json").text, "--pretty", "false"] →
    t.find invocation.directory staging = .ok (top, .directory) →
    t.SameOutside top (w.compiler count invocation t).tree

theorem Stays.contained {w t : World} (stays : w.Stays t) (contained : w.Contained) : t.Contained := by
  unfold Contained at contained ⊢
  rwa [stays.compiler]

end World

namespace CompilerEngine

structure Stocked (w : World) (top : Place) (t : World) : Prop where
  inside : w.tree.Inside top t.tree
  directory : t.directory = w.directory
  compiler : t.compiler = w.compiler

structure Confined (w : World) (top : Place) (t : World) : Prop where
  same : (w.tree.put top .directory).SameOutside top t.tree
  directory : t.directory = w.directory
  compiler : t.compiler = w.compiler

variable {w t : World} {staging p : Path} {top : Place} {ns : List String}

theorem Stocked.confined (stocked : Stocked w top t) : Confined w top t :=
  ⟨stocked.inside.same, stocked.directory, stocked.compiler⟩

theorem Opens.stocked (opens : Opens w staging top t) : Stocked w top t where
  inside := by
    refine ⟨opens.made ▸ .refl top _, fun names target some link => ?_⟩
    have other : top ++ names ≠ top := by simpa using some
    rw [opens.made, FileTree.entry?_put opens.opened.below, if_neg other, opens.opened.empty] at link
    cases link
  directory := opens.beside.directory
  compiler := opens.beside.compiler

section Opened

variable (opened : w.tree.Opened w.directory staging top) (tidy : staging.Tidy)

include opened tidy

theorem Stocked.ends_writeText (stocked : Stocked w top t) (descends : staging.Descends ns p)
    (task : FileTask) (text : String) :
    Act.Ends (World.writeText task p text) t (fun _ => Stocked w top) fun _ => Stocked w top := by
  rw [World.ends_writeText]
  refine ⟨fun tree written => ?_, fun _ _ => stocked⟩
  rw [stocked.directory] at written
  exact ⟨stocked.inside.write opened tidy descends written, stocked.directory, stocked.compiler⟩

theorem Stocked.ends_makePath (stocked : Stocked w top t) (descends : staging.Descends ns p)
    (last : ns = [] → p = staging) (task : FileTask) :
    Act.Ends (World.makePath task p) t (fun _ => Stocked w top) fun _ => Stocked w top := by
  have inside := stocked.inside.makePath opened tidy descends last
  rw [← stocked.directory] at inside
  have kept {result : Except FileError Unit} {tree : FileTree}
      (made : t.tree.makePath t.directory p = (result, tree)) : Stocked w top { t with tree := tree } := by
    rw [made] at inside
    exact ⟨inside, stocked.directory, stocked.compiler⟩
  rw [World.ends_makePath]
  exact ⟨fun _ made => kept made, fun _ _ made => kept made⟩

theorem Stocked.ends_makeAbove (stocked : Stocked w top t) {n : String}
    (descends : staging.Descends (ns ++ [n]) p) :
    Act.Ends (makeAbove p) t (fun _ => Stocked w top) fun _ => Stocked w top := by
  obtain ⟨above, parent, descends', last⟩ := descends.exists_parent? tidy
  unfold makeAbove
  rw [parent]
  exact stocked.ends_makePath opened tidy descends' last _

theorem Stocked.ends_stageSources (stocked : Stocked w top t) {root : Path} (rooted : root.isRooted)
    {sources : List (Path × SourceText)} (normal : ∀ source ∈ sources, source.1.IsNormal) :
    Act.Ends (stageSources root (staging.join "overlay") sources) t (fun _ => Stocked w top)
      fun _ => Stocked w top := by
  induction sources generalizing t with
  | nil =>
    change Act.Ends (pure ()) t _ _
    rwa [Act.ends_pure]
  | cons source rest ih =>
    have normal' : ∀ source ∈ rest, source.1.IsNormal := fun source member =>
      normal source (List.mem_cons_of_mem _ member)
    obtain ⟨p, text⟩ := source
    cases text with
    | onDisk => exact ih stocked normal'
    | inMemory text =>
      obtain ⟨names, relative, steps⟩ :=
        Staging.exists_names_relative rooted (normal _ List.mem_cons_self)
      have descends := (Path.descends_join_name tidy isName_overlay).trans
        (Path.descends_join (Path.tidy_join_name _ isName_overlay) relative steps)
      obtain ⟨ms, n, last⟩ := (List.eq_nil_or_concat' (["overlay"] ++ names)).resolve_left (by simp)
      rw [stageSources_inMemory, Act.ends_bind]
      refine (stocked.ends_makeAbove opened tidy (last ▸ descends)).mono ?_ fun _ _ => id
      intro _ u stocked
      rw [Act.ends_bind]
      refine (stocked.ends_writeText opened tidy descends _ _).mono ?_ fun _ _ => id
      intro _ v stocked
      exact ih stocked normal'

end Opened

theorem Stocked.ends_run (opened : w.tree.Opened w.directory staging top) (tidy : staging.Tidy)
    (rooted : staging.isRooted) (contained : w.Contained) (stocked : Stocked w top t) (command directory : Path) :
    Act.Ends (World.run command ["--project", (staging.join "tsconfig.json").text, "--pretty", "false"]
      directory) t (fun _ => Confined w top) fun _ => Confined w top := by
  refine (World.ends_run ..).mono ?_ ?_
  · rintro outcome u ⟨call, arguments, found, rfl, -, tree, here, compiler⟩
    have stands : call.tree.find call.invocation.directory staging = .ok (top, .directory) := by
      have known := opened.find_eq stocked.inside.same
      rw [FileTree.find_eq_ok_iff, FileTree.resolve_eq_ok_iff, if_pos rooted] at known ⊢
      rwa [found]
    have within := contained t.calls.length call.invocation call.tree staging top tidy rooted arguments
      stands
    rw [← stocked.compiler, found] at within
    refine ⟨?_, here.trans stocked.directory, compiler.trans stocked.compiler⟩
    rw [tree, World.outcomeOf, found]
    exact stocked.inside.same.trans within
  · rintro _ _ rfl
    exact stocked.confined

theorem Confined.log (confined : Confined w top t) (log : List Record) :
    Confined w top { t with log := log } :=
  ⟨confined.same, confined.directory, confined.compiler⟩

theorem Stocked.ends_compileIn {e : CompilerEngine} (rooted : e.options.root.isRooted)
    (normal : ∀ p ∈ e.sources.paths, p.IsNormal) (contained : w.Contained)
    (opens : Opens w staging top t) :
    Act.Ends (compileIn e staging) t (fun _ => Confined w top) fun _ => Confined w top := by
  have normal' : ∀ source ∈ e.sources.entries, source.1.IsNormal := fun source member =>
    normal _ (List.mem_map_of_mem member)
  have tidy := opens.tidy
  unfold compileIn
  dsimp only
  rw [Act.ends_bind]
  refine (opens.stocked.ends_stageSources opens.opened tidy rooted normal').mono ?_
    fun _ _ => Stocked.confined
  intro _ t stocked
  rw [Act.ends_bind, Act.ends_get, Act.ends_bind]
  refine (stocked.ends_writeText opens.opened tidy (Path.descends_join_name tidy isName_tsconfig) _
    _).mono ?_ fun _ _ => Stocked.confined
  intro _ t stocked
  rw [Act.ends_bind, World.ends_note, Act.ends_bind]
  have noted (r : Record) : Stocked w top (t.addNote r) :=
    ⟨stocked.inside, stocked.directory, stocked.compiler⟩
  refine ((noted _).ends_run opens.opened tidy opens.rooted contained _ _).mono ?_ fun _ _ => id
  intro outcome t confined
  change Act.Ends (settle e staging outcome) t _ _
  refine (ends_settle ..).mono ?_ ?_
  · rintro _ _ ⟨⟨log, rfl⟩, -⟩
    exact confined.log log
  · rintro _ _ ⟨⟨log, rfl⟩, -⟩
    exact confined.log log

/-- When the staging directory is removed, all is as it was before it was made. -/
theorem Confined.stays (opened : w.tree.Opened w.directory staging top) (confined : Confined w top t) :
    w.Stays { t with tree := t.tree.removePath t.directory staging } := by
  refine ⟨?_, confined.directory, confined.compiler⟩
  have removed := opened.entry?_removePath confined.same
  rwa [← confined.directory] at removed

theorem stays_compile {e : CompilerEngine} (rooted : e.options.root.isRooted)
    (normal : ∀ p ∈ e.sources.paths, p.IsNormal) (grounded : w.tree.Grounded)
    (contained : w.Contained) : Act.Ends (compile e) w (fun _ => w.Stays) fun _ => w.Stays := by
  apply ends_compile_of_opens grounded
  · exact fun _ _ logs => World.stays_of_logs logs
  · intro staging top t opens
    apply (Stocked.ends_compileIn rooted normal contained opens).mono
    · exact fun _ _ confined => confined.stays opens.opened
    · exact fun _ _ confined => confined.stays opens.opened

theorem stays_ensureCompiled {e : CompilerEngine} (rooted : e.options.root.isRooted)
    (normal : ∀ p ∈ e.sources.paths, p.IsNormal) (grounded : w.tree.Grounded)
    (contained : w.Contained) :
    Act.Ends ensureCompiled (e, w) (fun _ t => w.Stays t.2) fun _ t => w.Stays t.2 := by
  cases state : e.compilation with
  | some c => exact (ends_ensureCompiled_of_some state w).mpr (World.stays_of_logs w.logs_refl)
  | none =>
    rw [ends_ensureCompiled_of_none state]
    exact stays_compile rooted normal grounded contained

theorem stays_diagnostics {e : CompilerEngine} (rooted : e.options.root.isRooted)
    (normal : ∀ p ∈ e.sources.paths, p.IsNormal) (grounded : w.tree.Grounded)
    (contained : w.Contained) :
    Act.Ends engine.diagnostics (e, w) (fun _ t => w.Stays t.2) fun _ t => w.Stays t.2 := by
  simp only [engine, Act.ends_bind, Act.ends_pure]
  exact stays_ensureCompiled rooted normal grounded contained

theorem stays_emit {e : CompilerEngine} (rooted : e.options.root.isRooted)
    (normal : ∀ p ∈ e.sources.paths, p.IsNormal) (grounded : w.tree.Grounded)
    (contained : w.Contained) :
    Act.Ends engine.emit (e, w) (fun _ t => w.Stays t.2) fun _ t => w.Stays t.2 := by
  simp only [engine, emit, Act.ends_bind, Act.ends_modify]
  exact stays_ensureCompiled rooted normal grounded contained

end CompilerEngine

end DeclBundle
