import DeclBundle.Proofs.Engine.Settle

namespace DeclBundle

namespace CompilerEngine

attribute [local irreducible] Path.join

/-- What the compiler finds when it is started. -/
structure Prepared (e : CompilerEngine) (here : Place) (staging : Path) (call : Call) : Prop where
  tidy : staging.Tidy
  rooted : staging.isRooted
  arguments : call.invocation.arguments =
    ["--project", (staging.join "tsconfig.json").text, "--pretty", "false"]
  config : ∃ extending, call.tree.readText here (staging.join "tsconfig.json") =
    .ok (Json.indented 0 (Staging.tsconfig e.options extending e.sources.paths (layoutIn e staging)
      (compiledIn e staging)))
  stage : ∃ top, Stage call.tree here staging top
  staged : ∀ p text, (p, .inMemory text) ∈ e.sources.entries →
    Staging.overlayNames e.options.root p ≠ [] ∧
      ((compiledIn e staging).Pairwise (fun c c' => ¬c.same c') →
        call.tree.readText here ((staging.join "overlay").join (Staging.relative e.options.root p)) =
          .ok text)

def Compiled (e : CompilerEngine) (w : World) (c : Compilation) (t : World) : Prop :=
  ∃ staging call, Prepared e w.directory staging call ∧ t.calls = w.calls ++ [call] ∧
    c.outputs = (e.sources.paths.zip (compiledIn e staging)).map fun (logical, compiled) =>
      filesAt (w.afterwards call) logical (outputBeside e staging compiled)
        (Staging.declaredNames logical)

def Refused (e : CompilerEngine) (w t : World) : Prop :=
  t.calls = w.calls ∨ ∃ staging call, Prepared e w.directory staging call ∧
    t.calls = w.calls ++ [call] ∧
      ((w.outcomeOf call).status ≠ 0 ∨
        ∃ source ∈ e.sources.paths.zip (compiledIn e staging),
          ∃ name ∈ Staging.declaredNames source.1,
            let p := (outputBeside e staging source.2).withFileName name
            (w.afterwards call).isFile p ∧ (w.afterwards call).textAt? p = none)

theorem nodup_allStagedNames {root overlay : Path} (rootNormal : root.IsNormal) (rooted : overlay.isRooted)
    {sources : List (Path × SourceText)}
    (normal : ∀ source ∈ sources, source.1.IsNormal)
    (distinct : (sources.map (Staging.compiledPath root overlay)).Pairwise fun c c' => ¬c.same c') :
    (allStagedNames root sources).Nodup := by
  unfold allStagedNames List.Nodup
  rw [List.pairwise_filterMap]
  refine (List.pairwise_map.mp distinct).imp_of_mem ?_
  rintro ⟨p, text⟩ ⟨q, text'⟩ memberP memberQ apart names staged names' staged' rfl
  cases text with
  | onDisk => cases staged
  | inMemory text =>
    cases text' with
    | onDisk => cases staged'
    | inMemory text' =>
      apply apart
      have same : stagedNames root p = stagedNames root q :=
        Option.some.inj (staged.trans staged'.symm)
      have inner := (List.cons.inj same).2
      exact (Staging.same_staged_iff rootNormal rooted (normal _ memberP) (normal _ memberQ)).mpr inner

theorem isName_tsconfig : IsName "tsconfig.json" := by decide

theorem prepared_of_write {e : CompilerEngine} (rootNormal : e.options.root.IsNormal)
    (normal : ∀ p ∈ e.sources.paths, p.IsNormal) {staging : Path} (tidy : staging.Tidy)
    (rooted : staging.isRooted) {t t' : FileTree} {here top : Place} (stage : Stage t here staging top)
    (staged : ∀ p text, (p, .inMemory text) ∈ e.sources.entries →
      Staging.overlayNames e.options.root p ≠ [] ∧
        ((allStagedNames e.options.root e.sources.entries).Nodup →
          Staged t here (staging.join "overlay") top e.options.root p text))
    {extending : Bool}
    (written : t.write here (staging.join "tsconfig.json")
      (Json.indented 0 (Staging.tsconfig e.options extending e.sources.paths (layoutIn e staging)
        (compiledIn e staging))).toUTF8 = .ok t')
    {call : Call} (tree : call.tree = t')
    (arguments : call.invocation.arguments =
      ["--project", (staging.join "tsconfig.json").text, "--pretty", "false"]) :
    Prepared e here staging call := by
  obtain ⟨place, executable, leads, -, rfl, kept, found⟩ := FileTree.exists_of_write written
  have joined : (staging.join "tsconfig.json").pieces = staging.pieces ++ ["tsconfig.json".toList] :=
    Path.pieces_join_name tidy isName_tsconfig
  have rooted' : (staging.join "tsconfig.json").isRooted = staging.isRooted :=
    Path.isRooted_join (Path.relative_ofName isName_tsconfig) tidy.text_ne
  have steps : ["tsconfig.json".toList].filterMap Path.stepOf =
      ["tsconfig.json"].map Step.name := by decide
  obtain ⟨rfl, -⟩ := place_eq stage.stands stage.free leads (by simp) rooted' joined steps
  have normal' : ∀ source ∈ e.sources.entries, source.1.IsNormal := fun source member =>
    normal _ (List.mem_map_of_mem member)
  refine ⟨tidy, rooted, arguments, ⟨extending, ?_⟩, ⟨top, ?_⟩, fun p text member => ?_⟩
  · rw [tree]
    exact FileTree.readText_of_find found
  · rw [tree]
    exact stage.write (by decide) kept
  · obtain ⟨some, inPlace⟩ := staged p text member
    refine ⟨some, fun distinct => ?_⟩
    have overlayRooted : (staging.join "overlay").isRooted := by
      rw [Path.isRooted_join (Path.relative_ofName isName_overlay) tidy.text_ne, rooted]
    have apart := nodup_allStagedNames rootNormal overlayRooted normal' distinct
    -- The settings stand beside the overlay, so no source is overwritten by them.
    have other : top ++ stagedNames e.options.root p ∉ [top ++ ["tsconfig.json"]] := by
      rw [List.mem_singleton, List.append_cancel_left_eq, stagedNames]
      intro same
      exact absurd (List.cons.inj same).1 (by decide)
    obtain ⟨_, found'⟩ := (inPlace apart).keep kept other
    rw [tree]
    exact FileTree.readText_of_find found'

theorem launches_compileIn {e : CompilerEngine} (rootNormal : e.options.root.IsNormal)
    (normal : ∀ p ∈ e.sources.paths, p.IsNormal) {staging : Path} (tidy : staging.Tidy)
    (rooted : staging.isRooted) {w : World} {top : Place}
    (stage : Stage w.tree w.directory staging top) :
    Act.Ends (compileIn e staging) w (fun c t => Compiled e w c t) (fun _ t => Refused e w t) := by
  have normal' : ∀ source ∈ e.sources.entries, source.1.IsNormal := fun source member =>
    normal _ (List.mem_map_of_mem member)
  unfold compileIn
  dsimp only
  rw [Act.ends_bind]
  refine (ends_stageSources rootNormal tidy rfl normal' stage).mono ?_ fun _ _ => .inl
  rintro _ t ⟨beside, stage', -, staged⟩
  rw [Act.ends_bind, Act.ends_get, Act.ends_bind, World.ends_writeText]
  refine ⟨fun tree written => ?_, fun _ _ => .inl beside.calls⟩
  rw [Act.ends_bind, World.ends_note, Act.ends_bind]
  generalize noted : World.addNote _ _ = v
  have besideV : w.Beside v := noted ▸ ⟨beside.calls, beside.directory, beside.compiler⟩
  have treeV : v.tree = tree := noted ▸ rfl
  refine (World.ends_run ..).mono ?_ ?_
  · rintro outcome u ⟨call, arguments, found, rfl, calls, after, directory, -⟩
    have prepared : Prepared e w.directory staging call := by
      rw [beside.directory] at written
      exact prepared_of_write rootNormal normal tidy rooted stage' staged written (found.trans treeV)
        arguments
    rw [besideV.calls] at calls
    rw [besideV.outcomeOf] at after ⊢
    rw [besideV.directory] at directory
    change Act.Ends (settle e staging (w.outcomeOf call)) u _ _
    refine (ends_settle ..).mono ?_ ?_
    · rintro _ _ ⟨⟨log, rfl⟩, -, -, rfl⟩
      refine ⟨staging, call, prepared, calls, ?_⟩
      simp only [filesAt, World.textAt?_eq (t := u) (w := w.afterwards call) after directory]
    · rintro _ _ ⟨⟨log, rfl⟩, ended⟩
      refine .inr ⟨staging, call, prepared, calls, ?_⟩
      rcases ended with ⟨explained, -⟩ | ⟨-, garbled⟩
      · exact .inl explained.1
      · exact .inr ((garbled_iff (w := w.afterwards call) after directory e staging).mp garbled)
  · rintro _ _ rfl
    exact .inl besideV.calls

theorem Compiled.of_beside {e : CompilerEngine} {w v t : World} {c : Compilation}
    (beside : w.Beside v) (compiled : Compiled e v c t) : Compiled e w c t := by
  obtain ⟨staging, call, prepared, calls, outputs⟩ := compiled
  have tree : (v.afterwards call).tree = (w.afterwards call).tree :=
    congrArg Outcome.tree (beside.outcomeOf call)
  refine ⟨staging, call, beside.directory ▸ prepared, beside.calls ▸ calls, ?_⟩
  rw [outputs]
  simp only [filesAt, World.textAt?_eq tree beside.directory]

theorem Refused.of_beside {e : CompilerEngine} {w v t : World} (beside : w.Beside v)
    (refused : Refused e v t) : Refused e w t := by
  rcases refused with idle | ⟨staging, call, prepared, calls, failed⟩
  · exact .inl (idle.trans beside.calls)
  · have tree : (v.afterwards call).tree = (w.afterwards call).tree :=
      congrArg Outcome.tree (beside.outcomeOf call)
    refine .inr ⟨staging, call, beside.directory ▸ prepared, beside.calls ▸ calls, ?_⟩
    rcases failed with status | garbled
    · exact .inl (beside.outcomeOf call ▸ status)
    · exact .inr ((garbled_iff tree beside.directory e staging).mp garbled)

section Staging

variable {e : CompilerEngine} {w : World} {good : Compilation → World → Prop} {bad : Error → World → Prop}

/-- A compilation begins in a new staging directory, which is removed at its end, or with none made. -/
theorem ends_compile_of_staging (unopened : ∀ error t, w.Logs t → bad error t)
    (staged : ∀ staging t, Chosen e.options.root w staging → w.Beside t →
      (w.tree.Grounded → ∃ top, Opens w staging top t) → Act.Ends (compileIn e staging) t
        (fun c u => good c { u with tree := u.tree.removePath u.directory staging })
        fun error u => bad error { u with tree := u.tree.removePath u.directory staging }) :
    Act.Ends (compile e) w good bad := by
  have begun (v : World) (logs : w.Logs v) :
      Act.Ends (do
        let staging ← stagingDirectory e.options.root
        (compileIn e staging).andFinally fun w =>
          { w with tree := w.tree.removePath w.directory staging }) v good bad := by
    obtain ⟨log, rfl⟩ := logs
    rw [Act.ends_bind]
    apply (ends_stagingDirectory e.options.root { w with log := log }).mono
    · intro staging t made
      obtain ⟨chosen, ⟨calls, directory, compiler⟩, opens⟩ := made
      rw [Act.ends_andFinally]
      apply staged staging t chosen ⟨calls, directory, compiler⟩
      intro grounded
      obtain ⟨top, -, tidy, rooted, opened, made⟩ := opens grounded
      exact ⟨top, ⟨calls, directory, compiler⟩, tidy, rooted, opened, made⟩
    · exact fun error t more => unopened error t (World.Logs.trans ⟨log, rfl⟩ more)
  unfold compile
  split
  · rw [Act.ends_bind, World.ends_note]
    exact begun _ (World.logs_addNote ..)
  · exact begun w w.logs_refl

theorem ends_compile_of_opens (grounded : w.tree.Grounded) (unopened : ∀ error t, w.Logs t → bad error t)
    (opened : ∀ staging top t, Opens w staging top t → Act.Ends (compileIn e staging) t
      (fun c u => good c { u with tree := u.tree.removePath u.directory staging })
      fun error u => bad error { u with tree := u.tree.removePath u.directory staging }) :
    Act.Ends (compile e) w good bad := by
  apply ends_compile_of_staging unopened
  intro staging t _ _ opens
  obtain ⟨top, opens⟩ := opens grounded
  exact opened staging top t opens

end Staging

theorem launches_compile {e : CompilerEngine} (rootNormal : e.options.root.IsNormal)
    (normal : ∀ p ∈ e.sources.paths, p.IsNormal) {w : World} (grounded : w.tree.Grounded) :
    Act.Ends (compile e) w (fun c t => Compiled e w c t) (fun _ t => Refused e w t) := by
  apply ends_compile_of_opens grounded
  · rintro _ _ ⟨log, rfl⟩
    exact .inl rfl
  · intro staging top t opens
    have stage := opens.stage
    rw [← opens.beside.directory] at stage
    apply (launches_compileIn rootNormal normal opens.tidy opens.rooted stage).mono
    · exact fun _ _ compiled => Compiled.of_beside opens.beside compiled
    · exact fun _ _ refused => Refused.of_beside opens.beside refused

theorem launches_ensureCompiled {e : CompilerEngine} (rootNormal : e.options.root.IsNormal)
    (normal : ∀ p ∈ e.sources.paths, p.IsNormal) {w : World} (grounded : w.tree.Grounded) :
    Act.Ends ensureCompiled (e, w)
      (fun c t => t.1.compilation = some c ∧ (t.2.calls = w.calls ∨ Compiled e w c t.2))
      (fun _ t => Refused e w t.2) := by
  cases state : e.compilation with
  | some c => exact (ends_ensureCompiled_of_some state w).mpr ⟨state, .inl rfl⟩
  | none =>
    rw [ends_ensureCompiled_of_none state]
    exact (launches_compile rootNormal normal grounded).mono (fun _ _ compiled => ⟨rfl, .inr compiled⟩)
      fun _ _ => id

def emission (survey : Bool) : Act (CompilerEngine × World) Unit :=
  if survey then do
    let _ ← engine.diagnostics
    engine.emit
  else engine.emit

theorem ends_emit_of_compiled {e : CompilerEngine} {c : Compilation} (known : e.compilation = some c)
    (w : World) :
    Act.Ends emit (e, w)
      (fun _ t => t.1.compilation = some { c with emitted := true } ∧ t.2 = w) (fun _ _ => False) := by
  unfold emit
  rw [Act.ends_bind, ends_ensureCompiled_of_some known, Act.ends_modify]
  exact ⟨rfl, rfl⟩

theorem launches_emission {e : CompilerEngine} (rootNormal : e.options.root.IsNormal)
    (normal : ∀ p ∈ e.sources.paths, p.IsNormal) {w : World} (grounded : w.tree.Grounded)
    (survey : Bool) :
    Act.Ends (emission survey) (e, w)
      (fun _ t => t.2.calls = w.calls ∨
        ∃ c, t.1.compilation = some { c with emitted := true } ∧ Compiled e w c t.2)
      (fun _ t => Refused e w t.2) := by
  unfold emission
  split
  · simp only [engine, Act.ends_bind, Act.ends_pure]
    refine (launches_ensureCompiled rootNormal normal grounded).mono ?_ fun _ _ => id
    rintro c ⟨e', t⟩ ⟨known, launched⟩
    refine (ends_emit_of_compiled known t).mono ?_ fun _ _ => False.elim
    rintro _ ⟨e'', t'⟩ ⟨known', rfl⟩
    rcases launched with idle | compiled
    · exact .inl idle
    · exact .inr ⟨c, known', compiled⟩
  · simp only [engine, emit, Act.ends_bind, Act.ends_modify]
    refine (launches_ensureCompiled rootNormal normal grounded).mono ?_ fun _ _ => id
    rintro c ⟨e', t⟩ ⟨-, launched⟩
    rcases launched with idle | compiled
    · exact .inl idle
    · exact .inr ⟨c, rfl, compiled⟩

theorem ends_freshDirectory_of_made {w : World} {directory staging : Path} {start : String}
    {t : FileTree} (rooted : directory.isRooted)
    (made : w.tree.makeFresh w.directory directory start = (staging, .ok t)) :
    Act.Ends (freshDirectory directory start) w (fun p u => p = staging ∧ u = { w with tree := t })
      fun _ _ => False := by
  apply Act.Ends.of_runs
  · intro p u run
    unfold freshDirectory at run
    simp only [rooted, if_true, made] at run
    cases run
    exact ⟨rfl, rfl⟩
  · intro error u run
    unfold freshDirectory at run
    simp only [rooted, if_true, made] at run
    cases run

theorem ends_stageSources_onDisk (root overlay : Path) {sources : List (Path × SourceText)}
    (onDisk : ∀ source ∈ sources, source.2 = .onDisk) (w : World) :
    Act.Ends (stageSources root overlay sources) w (fun _ t => t = w) fun _ _ => False := by
  induction sources with
  | nil =>
    change Act.Ends (pure ()) w _ _
    rw [Act.ends_pure]
  | cons source rest ih =>
    obtain ⟨p, text⟩ := source
    obtain rfl : text = .onDisk := onDisk (p, text) (List.mem_cons_self ..)
    refine (ih fun source member => onDisk source (List.mem_cons_of_mem _ member)).mono ?_ fun _ _ => id
    exact fun _ _ => id

theorem ends_stageSources_of_write {root overlay p staged directory : Path} {text : String}
    {rest : List (Path × SourceText)} {w : World} {t t' : FileTree} {good : Unit → World → Prop}
    {bad : Error → World → Prop} (place : overlay.join (Staging.relative root p) = staged)
    (parent : staged.parent? = some directory) (made : w.tree.makePath w.directory directory = (.ok (), t))
    (written : t.write w.directory staged text.toUTF8 = .ok t')
    (ends : Act.Ends (stageSources root overlay rest) { w with tree := t' } good bad) :
    Act.Ends (stageSources root overlay ((p, .inMemory text) :: rest)) w good bad := by
  have above : Act.Ends (makeAbove staged) w (fun _ v => v = { w with tree := t }) fun _ _ => False := by
    unfold makeAbove
    rw [parent]
    simp only [World.ends_makePath, made]
    grind
  rw [stageSources_inMemory, place, Act.ends_bind]
  refine above.mono ?_ fun _ _ => False.elim
  rintro _ _ rfl
  rw [Act.ends_bind, World.ends_writeText]
  refine ⟨fun tree wrote => ?_, fun error failed => ?_⟩
  · obtain rfl := Except.ok.inj (written.symm.trans wrote)
    exact ends
  · cases written.symm.trans failed

def startIn (e : CompilerEngine) (staging : Path) (place : Place) (tree : FileTree) : Call :=
  ⟨⟨e.command, ["--project", (staging.join "tsconfig.json").text, "--pretty", "false"], place⟩, tree⟩

theorem join_of_arguments {e : CompilerEngine} {staging other : Path} {place : Place} {tree : FileTree}
    (arguments : (startIn e other place tree).invocation.arguments =
      ["--project", (staging.join "tsconfig.json").text, "--pretty", "false"])
    {n : String} (relative : ¬Path.isRooted ⟨n⟩) : staging.join ⟨n⟩ = other.join ⟨n⟩ := by
  have texts := (List.cons.inj (List.cons.inj arguments).2).1
  have joined : staging.join "tsconfig.json" = other.join "tsconfig.json" := congrArg Path.mk texts.symm
  exact Path.join_congr (by decide) relative joined

/-- All is in place for the compiler to be started in `place`, in a staging directory where all sources can be
staged, and where `configured` then puts its configuration. -/
structure Arranged (e : CompilerEngine) (w : World) (staging : Path) (place : Place)
    (configured : ByteArray → FileTree) : Prop where
  new : e.compilation = none
  listed : e.options.skipListedFiles
  unpacked : w.isDirectory (e.options.root.join "node_modules") = false
  rooted : w.temporaryDirectory.isRooted
  made : ∃ t t', w.tree.makeFresh w.directory w.temporaryDirectory "dtsemit-" = (staging, .ok t) ∧
    Act.Ends (stageSources e.options.root (staging.join "overlay") e.sources.entries) { w with tree := t }
      (fun _ v => v = { w with tree := t' }) (fun _ _ => False) ∧
    ∀ bytes, t'.write w.directory (staging.join "tsconfig.json") bytes = .ok (configured bytes)
  stands : ∀ bytes, (configured bytes).find w.directory e.options.root = .ok (place, .directory)
  slash : '/' ∈ e.command.text.toList
  runnable : ∀ bytes, ∃ program code,
    (configured bytes).find place e.command = .ok (program, .file code true)

section Arranged

variable {w : World} {staging : Path} {place : Place} {configured : ByteArray → FileTree}

theorem Arranged.ends_ensureCompiled (arranged : Arranged e w staging place configured)
    {good : Compilation → CompilerEngine × World → Prop} {bad : Error → CompilerEngine × World → Prop}
    (settles : ∀ bytes v, v.calls = w.calls ++ [startIn e staging place (configured bytes)] →
      v.tree = (w.outcomeOf (startIn e staging place (configured bytes))).tree →
        v.directory = w.directory →
          Act.Ends (settle e staging (w.outcomeOf (startIn e staging place (configured bytes)))) v
            (fun c t => ∀ tree, good c ({ e with compilation := some c }, { t with tree := tree }))
            fun error t => ∀ tree, bad error (e, { t with tree := tree })) :
    Act.Ends ensureCompiled (e, w) good bad := by
  obtain ⟨t, t', made, staged, written⟩ := arranged.made
  have absent : (World.isDirectory w (e.options.root.join "node_modules")) ≠ true := by
    rw [arranged.unpacked]
    decide
  simp only [ensureCompiled, Act.ends_bind, Act.ends_get, arranged.new, Act.ends_second, Act.ends_modify,
    Act.ends_pure]
  unfold compile
  simp only [arranged.listed, Bool.not_true, Bool.false_eq_true, if_false, Act.ends_bind, stagingDirectory,
    Act.ends_get, absent, Act.ends_andFinally]
  refine (ends_freshDirectory_of_made arranged.rooted made).mono ?_ fun _ _ => False.elim
  rintro _ _ ⟨rfl, rfl⟩
  unfold compileIn
  dsimp only
  rw [Act.ends_bind]
  refine staged.mono ?_ fun _ _ => False.elim
  rintro _ _ rfl
  rw [Act.ends_bind, Act.ends_get, Act.ends_bind, World.ends_writeText]
  refine ⟨fun tree wrote => ?_, fun error failed => ?_⟩
  · obtain rfl := Except.ok.inj ((written _).symm.trans wrote)
    rw [Act.ends_bind, World.ends_note, Act.ends_bind]
    obtain ⟨program, code, runnable⟩ := arranged.runnable _
    refine (World.ends_run_of_found (arranged.stands _) arranged.slash runnable).mono ?_ fun _ _ => False.elim
    rintro outcome v ⟨rfl, calls, after, directory⟩
    change Act.Ends (settle e _ _) v _ _
    exact (settles _ v calls after directory).mono (fun _ _ ended => ended _) fun _ _ ended => ended _
  · cases (written _).symm.trans failed

theorem Arranged.calls_ensureCompiled (arranged : Arranged e w staging place configured) :
    Act.Ends ensureCompiled (e, w)
      (fun _ u => ∃ bytes, u.2.calls = w.calls ++ [startIn e staging place (configured bytes)])
      (fun _ u => ∃ bytes, u.2.calls = w.calls ++ [startIn e staging place (configured bytes)]) := by
  apply arranged.ends_ensureCompiled
  intro bytes v calls _ _
  refine (ends_settle ..).mono ?_ ?_
  · rintro c _ ⟨⟨log, rfl⟩, -⟩
    exact fun _ => ⟨bytes, calls⟩
  · rintro error _ ⟨⟨log, rfl⟩, -⟩
    exact fun _ => ⟨bytes, calls⟩

end Arranged

end CompilerEngine

end DeclBundle
