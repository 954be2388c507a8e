import DeclBundle.Proofs.Build.Deposit
import DeclBundle.Proofs.Engine.Attribution

namespace DeclBundle

def Attempt.noted (a : Attempt) : Path × Nat := (a.path, a.text.utf8ByteSize)

namespace Sink

theorem ends_dryRun (p : Path) (text : String) (s : List (Path × Nat) × World) :
    Act.Ends (dryRun.write p text) s
      (fun _ t => t.1 = s.1 ++ [(p, text.utf8ByteSize)] ∧ s.2.Logs t.2) fun _ _ => False := by
  simp only [dryRun, Act.ends_bind, Act.ends_second, World.ends_note, Act.ends_modify]
  exact ⟨trivial, s.2.logs_addNote _⟩

theorem Delivers.of_dryRun {s t : List (Path × Nat) × World} {attempts : List Attempt}
    (delivers : dryRun.Delivers s attempts t) :
    Attempt.AllWritten attempts ∧ t.1 = s.1 ++ attempts.map Attempt.noted ∧ s.2.Logs t.2 := by
  induction delivers with
  | done s => exact ⟨nofun, (List.append_nil _).symm, s.2.logs_refl⟩
  | noted r _ ih => exact ⟨ih.1, ih.2.1, (World.logs_addNote ..).trans ih.2.2⟩
  | @written s t u p text attempts run _ ih =>
    obtain ⟨written, all, logs⟩ := ih
    obtain ⟨noted, first⟩ := (ends_dryRun ..).ok run
    refine ⟨fun a member => ?_, ?_, first.trans logs⟩
    · rcases List.mem_cons.mp member with rfl | member
      · rfl
      · exact written a member
    · rw [all, noted, List.append_assoc]
      rfl
  | refused run => exact ((ends_dryRun ..).error run).elim

end Sink

namespace Build

section Finish

variable {ε κ : Type} {engine : Engine ε} (sink : Sink κ)

variable {p p' : Plugin ε} {w u : World} {inputs : List Path} {output : Output}

theorem run_of_prepared {directory : Path} {count : Nat}
    (prepared : prepare engine inputs output (p, w) = .ok (directory, count) (p', u)) (k : κ) :
    run engine sink inputs output (p, k, w) = finish engine sink directory count (p', k, u) := by
  rw [run_eq]
  simp only [Bind.bind, EStateM.bind, Act.focus, prepared]

theorem run_of_unprepared {e : Error}
    (failed : prepare engine inputs output (p, w) = .error e (p', u)) (k : κ) :
    run engine sink inputs output (p, k, w) = .error e (p', k, u) := by
  rw [run_eq]
  simp only [Bind.bind, EStateM.bind, Act.focus, failed]

theorem finish_dryRun
    (known : ∀ h ∈ p.registry.handles, ∃ files, engine.emitted p.engine h.id = .ok files)
    (directory : Path) (count : Nat) :
    ∃ v, w.Logs v ∧ finish engine Sink.dryRun directory count (p, [], w) =
      .ok ⟨p.registry.size, count, Emission.targets (rerooting p) directory (outgoing engine p)⟩
        (p, (Emission.attempts (rerooting p) directory (outgoing engine p)).map Attempt.noted, v) := by
  have ends := ends_finish engine Sink.dryRun known directory count [] w
  cases ran : finish engine Sink.dryRun directory count (p, [], w) with
  | ok summary t =>
    obtain ⟨p', written, v⟩ := t
    obtain ⟨same, whole, delivers⟩ := ends.ok ran
    obtain rfl : p' = p := same
    obtain ⟨-, noted, logs⟩ := delivers.of_dryRun
    obtain rfl : written = _ := noted
    exact ⟨v, logs, whole ▸ rfl⟩
  | error e t =>
    obtain ⟨-, before, f, after, -, delivers⟩ := ends.error ran
    cases delivers.of_dryRun.1 _ (List.mem_append_right _ List.mem_cons_self)

end Finish

open CompilerEngine (engine)

/-- If a build writes all its declarations to the disk, a dry run has the same summary. It leaves the files as
they were before the first of the texts was written whose sizes it has noted, and each of these can be read in the
end unless a later one is in the same file. If a dry run fails, the build fails in the same way and has written
nothing. -/
theorem dryRun_predicts {p : Plugin CompilerEngine} (reached : p.Reached engine) (inputs : List Path)
    (output : Output) (w : World) :
    (∀ summary p' w', run engine Sink.disk inputs output (p, (), w) = .ok summary (p', (), w') →
      ∃ (files : List (Path × String)) (v : World), files.map Prod.fst = summary.written ∧
        run engine Sink.dryRun inputs output (p, [], w) =
          .ok summary (p', files.map fun f => (f.1, f.2.utf8ByteSize), v) ∧
        w'.directory = v.directory ∧ FileTree.Written v.directory v.tree files w'.tree ∧
        ∀ before q text after, files = before ++ (q, text) :: after →
          (∀ g ∈ after, w'.tree.find w'.directory g.1 ≠ w'.tree.find w'.directory q) →
            w'.tree.readText w'.directory q = .ok text) ∧
    ∀ e p' written w', run engine Sink.dryRun inputs output (p, [], w) = .error e (p', written, w') →
      written = [] ∧ run engine Sink.disk inputs output (p, (), w) = .error e (p', (), w') ∧
        run engine Sink.disk.traced inputs output (p, ([], ()), w) = .error e (p', ([], ()), w') := by
  -- Up to here no sink has a part in the build, and it ends alike for all of them if it fails.
  cases prepared : prepare engine inputs output (p, w) with
  | error e s =>
    obtain ⟨q, u⟩ := s
    refine ⟨?_, ?_⟩
    · intro summary p' w' ran
      rw [run_of_unprepared Sink.disk prepared] at ran
      cases ran
    · intro e' p' written w' ran
      rw [run_of_unprepared Sink.dryRun prepared] at ran
      cases ran
      exact ⟨rfl, run_of_unprepared Sink.disk prepared (), run_of_unprepared Sink.disk.traced prepared _⟩
  | ok plan s =>
    obtain ⟨directory, count⟩ := plan
    obtain ⟨q, u⟩ := s
    have known := (known_of_prepare inputs output reached w).ok prepared
    obtain ⟨_, ⟨log, rfl⟩, dry⟩ := finish_dryRun (w := u) known directory count
    have predicted := (run_of_prepared Sink.dryRun prepared []).trans dry
    refine ⟨?_, ?_⟩
    · intro summary p' w' ran
      rw [run_of_prepared Sink.disk prepared] at ran
      obtain ⟨same, rfl, delivers⟩ := (ends_finish engine Sink.disk known directory count () u).ok ran
      obtain rfl : p' = q := same
      have here : w'.directory = u.directory := delivers.tree_disk.1
      have written := delivers.written_disk (Emission.allWritten_attempts _ _ _)
      refine ⟨_, { u with log := log }, ?_, ?_, here, written, ?_⟩
      · simp [Emission.attempts, Emission.targets]
      · rw [predicted]
        simp [Attempt.noted, Function.comp_def]
      · intro before q text after split last
        rw [split] at written
        rw [here] at last ⊢
        exact written.readText last
    · intro e p' written w' ran
      rw [predicted] at ran
      cases ran

theorem dryRun_predicts_desk :
    ∃ (p p' : Plugin CompilerEngine) (w w' v : World), Plugin.Reached engine p ∧
      run engine Sink.disk ["Badge.vue"] { directory := some "dist" } (p, (), w) =
        .ok ⟨1, 0, ["/proj/dist/Badge.vue.d.ts"]⟩ (p', (), w') ∧
      run engine Sink.dryRun ["Badge.vue"] { directory := some "dist" } (p, [], w) =
        .ok ⟨1, 0, ["/proj/dist/Badge.vue.d.ts"]⟩ (p', [("/proj/dist/Badge.vue.d.ts", 30)], v) ∧
      w'.tree.readText w'.directory "/proj/dist/Badge.vue.d.ts" = .ok "export declare const size = 1;" ∧
      run engine Sink.dryRun ["a.ts"] { directory := some "dist" } (p, [], w) =
        .error (.noInput "/proj/a.ts") (p, [], w) ∧
      run engine Sink.disk ["a.ts"] { directory := some "dist" } (p, (), w) =
        .error (.noInput "/proj/a.ts") (p, (), w) := by
  obtain ⟨w, created, logs⟩ := exists_create_desk
  have reached : Plugin.Reached engine (deskPlugin deskEngine []) := .created created
  obtain ⟨p', w', ran, read⟩ := exists_run_desk logs
  obtain ⟨files, v, paths, dry, -, -, left⟩ :=
    (dryRun_predicts reached ["Badge.vue"] { directory := some "dist" } w).1 _ _ _ ran
  obtain ⟨⟨q, text⟩, rfl⟩ : ∃ file, files = [file] :=
    List.length_eq_one_iff.mp (by simpa using congrArg List.length paths)
  obtain rfl : q = "/proj/dist/Badge.vue.d.ts" := by simpa using paths
  obtain rfl : text = "export declare const size = 1;" := by
    have there := left [] _ _ [] rfl nofun
    exact Except.ok.inj (there.symm.trans read)
  have place : (deskPlugin deskEngine []).config.root.resolve "a.ts" = "/proj/a.ts" := by
    change Path.resolve "/proj" "a.ts" = _
    decide
  have missing : w.tree.find w.directory "/proj/a.ts" = .error .notFound := by
    obtain ⟨log, rfl⟩ := logs
    exact (grounded_desk _).find_missing ["proj"] "a.ts" (by decide) rfl rfl
  have failed := run_of_missing Sink.dryRun place missing [] { directory := some "dist" } []
  exact ⟨_, p', w, w', v, reached, ran, dry, read, failed, ((dryRun_predicts reached _ _ w).2 _ _ _ _ failed).2.1⟩

end Build

end DeclBundle
