import DeclBundle.Proofs.Build.Books
import DeclBundle.Proofs.Build.Configuration
import DeclBundle.Proofs.Build.DryRun
import DeclBundle.Proofs.Engine.Confinement

namespace DeclBundle

/-- The calls of a sink in a build with some result: all that the summary lists, or none, or some of which the
last one has failed. -/
def Attempt.AccountFor (attempts : List Attempt) : Except Error Summary → Prop
  | .ok summary => AllWritten attempts ∧ attempts.map Attempt.path = summary.written
  | .error e => attempts = [] ∨ LastFailed attempts e

namespace Build

section Present

variable {ε α : Type} {engine : Engine ε} {sources : ε → Sources α} {intake : Intake α}
  (registers : engine.Registers sources intake)

include registers

theorem logs_transformFile (p : Plugin ε) (file : Path) (w : World) :
    Act.Ends (transformFile engine file) (p, w) (fun _ t => w.Logs t.2 ∧ t.1.config = p.config)
      fun _ t => w.Logs t.2 ∧ t.1.config = p.config := by
  simp only [transformFile, Act.ends_bind, Act.ends_second, World.ends_readText]
  refine ⟨fun source _ => ?_, fun _ _ => ⟨w.logs_refl, trivial⟩⟩
  split
  · simp only [Act.ends_bind, Act.ends_second, World.ends_note, Act.ends_pure]
    exact ⟨w.logs_addNote _, trivial⟩
  · simp only [Act.ends_bind, Act.ends_pure]
    refine (Plugin.turned_transform registers _ _ p w).mono ?_ ?_
    · exact fun _ _ turned => ⟨turned.logs, turned.config⟩
    · exact fun _ _ turned => ⟨turned.logs, turned.config⟩

theorem logs_transformAll (files : List Path) (p : Plugin ε) (w : World) :
    Act.Ends (transformAll engine files) (p, w) (fun _ t => w.Logs t.2 ∧ t.1.config = p.config)
      fun _ t => w.Logs t.2 ∧ t.1.config = p.config := by
  induction files generalizing p w with
  | nil =>
    simp only [transformAll, Act.ends_pure]
    exact ⟨w.logs_refl, trivial⟩
  | cons file rest ih =>
    simp only [transformAll, Act.ends_bind, Act.ends_pure]
    refine (logs_transformFile registers p file w).mono ?_ fun _ _ kept => kept
    rintro _ ⟨p', w'⟩ ⟨logs, config⟩
    refine (ih p' w').mono ?_ ?_
    · exact fun _ _ kept => ⟨logs.trans kept.1, kept.2.trans config⟩
    · exact fun _ _ kept => ⟨logs.trans kept.1, kept.2.trans config⟩

theorem logs_present (inputs : List Path) (p : Plugin ε) (w : World) :
    Act.Ends (present engine inputs) (p, w) (fun _ t => w.Logs t.2 ∧ t.1.config = p.config)
      fun _ t => w.Logs t.2 ∧ t.1.config = p.config := by
  simp only [present, Inputs.collect, Act.ends_bind, Act.ends_get, Act.ends_second, Act.ends_ofExcept,
    World.ends_note, Act.ends_pure]
  refine ⟨fun files _ => ?_, fun _ _ => ⟨w.logs_refl, trivial⟩⟩
  refine (logs_transformAll registers _ p _).mono ?_ ?_
  · rintro _ t ⟨logs, config⟩
    exact ⟨((w.logs_addNote _).trans logs).trans (World.logs_addNote ..), config⟩
  · rintro _ t ⟨logs, config⟩
    exact ⟨(w.logs_addNote _).trans logs, config⟩

end Present

open CompilerEngine (engine)

variable {p : Plugin CompilerEngine} {w : World}

theorem stays_prepare (reached : p.Reached engine) (rooted : p.config.root.isRooted)
    (grounded : w.tree.Grounded) (contained : w.Contained) (inputs : List Path) (output : Output) :
    Act.Ends (prepare engine inputs output) (p, w) (fun _ t => w.Stays t.2) fun _ t => w.Stays t.2 := by
  rw [ends_prepare_iff]
  refine ((ends_present reached inputs w).and
    (logs_present CompilerEngine.registers inputs p w)).mono ?_ ?_
  · rintro _ ⟨p', v⟩ ⟨reached', logs, config⟩
    have configured := (reached'.held CompilerEngine.holds).inv
    have stays : w.Stays v := World.stays_of_logs logs
    have top {e : CompilerEngine} (configured : CompilerEngine.Configured p'.config e) :
        e.options.root.isRooted ∧ ∀ q ∈ e.sources.paths, q.IsNormal := by
      rw [config] at configured
      exact ⟨by rw [configured.options]; exact rooted, configured.normal rooted⟩
    refine Emission.ends_prepare (fun _ _ => stays) fun directory _ v' noted => ?_
    have before : w.Stays v' := stays.trans (World.stays_of_logs noted)
    -- Each compilation leaves the files as they were, and the engine as the next one needs it.
    have survey := (CompilerEngine.stays_diagnostics (top configured).1 (top configured).2
      (before.grounded grounded) (before.contained contained)).and
        (CompilerEngine.holds.diagnostics configured v')
    refine survey.mono ?_ fun _ _ kept => before.trans kept.1
    rintro ds ⟨e, u⟩ ⟨more, configured'⟩ u' noted'
    have surveyed : w.Stays u' := (before.trans more).trans (World.stays_of_logs noted')
    refine (CompilerEngine.stays_emit (top configured').1 (top configured').2
      (surveyed.grounded grounded) (surveyed.contained contained)).mono ?_ ?_
    · exact fun _ _ more => surveyed.trans more
    · exact fun _ _ more => surveyed.trans more
  · rintro _ _ ⟨-, logs, -⟩
    exact World.stays_of_logs logs

theorem delivers_run {κ : Type} (sink : Sink κ) (reached : p.Reached engine)
    (rooted : p.config.root.isRooted) (grounded : w.tree.Grounded) (contained : w.Contained)
    (inputs : List Path) (output : Output) (k : κ) :
    Act.Ends (run engine sink inputs output) (p, k, w)
      (fun summary t => ∃ u attempts, w.Stays u ∧ sink.Delivers (k, u) attempts t.2 ∧
        Attempt.AccountFor attempts (.ok summary))
      fun error t => ∃ u attempts, w.Stays u ∧ sink.Delivers (k, u) attempts t.2 ∧
        Attempt.AccountFor attempts (.error error) := by
  rw [run_eq, Act.ends_bind, Act.ends_focus]
  refine ((stays_prepare reached rooted grounded contained inputs output).and
    (known_of_prepare inputs output reached w)).mono ?_ ?_
  · rintro ⟨directory, count⟩ ⟨p', u⟩ ⟨stays, known⟩
    refine (ends_finish engine sink known directory count k u).mono ?_ ?_
    · rintro _ t ⟨-, rfl, delivers⟩
      refine ⟨u, _, stays, delivers, Emission.allWritten_attempts _ _ _, ?_⟩
      simp [Emission.attempts, Emission.targets]
    · rintro error t ⟨-, before, f, after, -, delivers⟩
      exact ⟨u, _, stays, delivers, .inr ⟨_, _, rfl, Emission.allWritten_attempts _ _ _, rfl⟩⟩
  · rintro error ⟨p', u⟩ ⟨stays, -⟩
    exact ⟨u, [], stays, .done _, .inl rfl⟩

/-- Of a build, whatever its result, there is nothing left in the files but what the calls of its sink have put
there, if the compiler keeps to the staging directory. A dry run leaves nothing. -/
theorem entries_of_run (reached : p.Reached engine) (rooted : p.config.root.isRooted)
    (grounded : w.tree.Grounded) (contained : w.Contained) (inputs : List Path) (output : Output) :
    (∀ {κ : Type} (sink : Sink κ) (k k' : κ) result p' w',
      (run engine sink inputs output).outcome (p, k, w) = (result, p', k', w') →
        ∃ u attempts, u.tree.entry? = w.tree.entry? ∧ u.directory = w.directory ∧
          sink.Delivers (k, u) attempts (k', w') ∧ Attempt.AccountFor attempts result) ∧
    (∀ result p' w', (run engine Sink.disk inputs output).outcome (p, (), w) = (result, p', (), w') →
      ∃ attempts, Attempt.AccountFor attempts result ∧
        w'.tree.entry? = FileTree.entry? (attempts.foldl (.deposit w.directory) w.tree)) ∧
    ∀ result written written' p' w',
      (run engine Sink.dryRun inputs output).outcome (p, written, w) = (result, p', written', w') →
        w'.tree.entry? = w.tree.entry? := by
  have delivered {κ : Type} (sink : Sink κ) (k k' : κ) (result : Except Error Summary)
      (p' : Plugin CompilerEngine) (w' : World)
      (ran : (run engine sink inputs output).outcome (p, k, w) = (result, p', k', w')) :
      ∃ u attempts, w.Stays u ∧ sink.Delivers (k, u) attempts (k', w') ∧
        Attempt.AccountFor attempts result := by
    have ends := (delivers_run sink reached rooted grounded contained inputs output k).outcome_result
      (P := fun result (t : Plugin CompilerEngine × κ × World) => ∃ u attempts, w.Stays u ∧
        sink.Delivers (k, u) attempts t.2 ∧ Attempt.AccountFor attempts result)
    rwa [ran] at ends
  refine ⟨?_, ?_, ?_⟩
  · intro κ sink k k' result p' w' ran
    obtain ⟨u, attempts, stays, delivers, account⟩ := delivered sink k k' result p' w' ran
    exact ⟨u, attempts, stays.files, stays.directory, delivers, account⟩
  · intro result p' w' ran
    obtain ⟨u, attempts, stays, delivers, account⟩ := delivered _ _ _ result p' w' ran
    refine ⟨attempts, account, ?_⟩
    have tree : w'.tree = attempts.foldl (.deposit u.directory) u.tree := delivers.tree_disk.2
    rw [tree, stays.directory]
    exact FileTree.foldl_deposit_eq stays.files _ _
  · intro result written written' p' w' ran
    obtain ⟨u, attempts, stays, delivers, -⟩ := delivered _ _ _ result p' w' ran
    obtain ⟨-, -, log, rfl⟩ := delivers.of_dryRun
    exact stays.files

theorem entries_of_run_desk :
    ∃ (p p' : Plugin CompilerEngine) (w w' : World), Plugin.Reached engine p ∧ p.config.root.isRooted ∧
      w.tree.Grounded ∧ w.Contained ∧
      run engine Sink.disk ["Badge.vue"] { directory := some "dist" } (p, (), w) =
        .ok ⟨1, 0, ["/proj/dist/Badge.vue.d.ts"]⟩ (p', (), w') ∧
      (∃ declarations, w'.tree.entry? =
        FileTree.entry? ((w.tree.put ["proj", "dist"] .directory).put ["proj", "dist", "Badge.vue.d.ts"]
          (.file declarations false))) ∧
      ∃ result q written v, (run engine Sink.dryRun ["Badge.vue"] { directory := some "dist" }).outcome (p, [], w) =
        (result, q, written, v) ∧ v.tree.entry? = w.tree.entry? := by
  obtain ⟨w, created, logs⟩ := exists_create_desk
  have reached : Plugin.Reached engine (deskPlugin deskEngine []) := .created created
  have rooted : (deskPlugin deskEngine []).config.root.isRooted := by
    change Path.isRooted "/proj"
    decide
  have grounded : w.tree.Grounded := by
    obtain ⟨log, rfl⟩ := logs
    exact grounded_desk _
  have contained : w.Contained := by
    obtain ⟨log, rfl⟩ := logs
    exact contained_desk
  obtain ⟨p', w', ran, -⟩ := exists_run_desk logs
  obtain ⟨-, disk, dry⟩ :=
    entries_of_run reached rooted grounded contained ["Badge.vue"] { directory := some "dist" }
  have outcome : (run engine Sink.disk ["Badge.vue"] { directory := some "dist" }).outcome
      (deskPlugin deskEngine [], (), w) = (.ok ⟨1, 0, ["/proj/dist/Badge.vue.d.ts"]⟩, p', (), w') := by
    unfold Act.outcome
    rw [ran]
  obtain ⟨attempts, ⟨-, paths⟩, entries⟩ := disk _ _ _ outcome
  obtain ⟨⟨q, text, failure⟩, rfl⟩ : ∃ a, attempts = [a] :=
    List.length_eq_one_iff.mp (by simpa using congrArg List.length paths)
  obtain rfl : q = "/proj/dist/Badge.vue.d.ts" := by simpa using paths
  have built : w'.tree.entry? = FileTree.entry? ((w.tree.put ["proj", "dist"] .directory).put
      ["proj", "dist", "Badge.vue.d.ts"] (.file text.toUTF8 false)) := by
    obtain ⟨log, rfl⟩ := logs
    exact entries.trans (congrArg FileTree.entry? ((puts_desk _ text).deposit failure))
  rcases dried : (run engine Sink.dryRun ["Badge.vue"] { directory := some "dist" }).outcome
    (deskPlugin deskEngine [], [], w) with ⟨result, q, written, v⟩
  exact ⟨_, p', w, w', reached, rooted, grounded, contained, ran, ⟨_, built⟩, result, q, written, v, dried,
    dry _ _ _ _ _ dried⟩

end Build

end DeclBundle
