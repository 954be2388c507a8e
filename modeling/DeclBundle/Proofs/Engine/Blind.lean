import DeclBundle.Engine.Memory
import DeclBundle.Proofs.Alike
import DeclBundle.Proofs.Engine.Stage

namespace DeclBundle

open Act (Alike SameFirst Steady)
open World (Blind BlindBeside)

namespace Engine

variable {ε : Type}

structure IsBlind (engine : Engine ε) : Prop where
  diagnostics : BlindBeside engine.diagnostics
  emit : BlindBeside engine.emit

/-- Engines that report different diagnostics in the same way, and emit the same. -/
structure OtherDiagnostics (a b : Engine ε) : Prop where
  diagnostics : Alike (fun _ _ => True) (SameFirst World.Logs) a.diagnostics b.diagnostics
  emit : Alike Eq (SameFirst World.Logs) a.emit b.emit
  emitted : a.emitted = b.emitted

theorem IsBlind.otherDiagnostics {engine : Engine ε} (blind : engine.IsBlind)
    (change : List Diagnostic → List Diagnostic) :
    engine.OtherDiagnostics { engine with diagnostics := change <$> engine.diagnostics } where
  diagnostics := by
    have changed : Alike (fun _ _ => True) (SameFirst World.Logs) (id <$> engine.diagnostics)
        (change <$> engine.diagnostics) := Alike.map blind.diagnostics fun _ _ _ => trivial
    rwa [id_map] at changed
  emit := blind.emit
  emitted := rfl

end Engine

namespace MemoryEngine

theorem steady_guard {σ : Type} {S : σ → σ → Prop} (script : MemoryScript) (stage : Stage) :
    Steady S (guard script stage) := by
  intro s t related
  unfold guard
  split
  · exact .inr ⟨_, s, t, rfl, rfl, related⟩
  · exact .inl ⟨(), s, (), t, rfl, rfl, rfl, related⟩

theorem otherDiagnostics (script : MemoryScript) (reports : Option (List Diagnostic)) :
    (engine script).OtherDiagnostics (engine { script with diagnostics := reports }) where
  diagnostics := by
    refine (steady_guard script .diagnostics).alike_bind fun _ => ?_
    exact Act.alike_get.bind fun _ _ _ => Act.alike_pure trivial
  emit := by
    refine (steady_guard script .emit).bind fun _ => ?_
    apply Act.alike_modify
    rintro ⟨e, w⟩ ⟨_, w'⟩ ⟨rfl, logs⟩
    exact ⟨rfl, logs⟩
  emitted := rfl

end MemoryEngine

namespace CompilerEngine

theorem blind_freshDirectory (directory : Path) (start : String) :
    Blind (freshDirectory directory start) := by
  rintro w _ ⟨log, rfl⟩
  unfold freshDirectory
  dsimp only [World.directoryPath]
  split
  · exact .inl ⟨_, _, _, _, rfl, rfl, rfl, _, rfl⟩
  · exact .inr ⟨_, _, _, rfl, rfl, _, rfl⟩

theorem blind_stagingDirectory (root : Path) : Blind (stagingDirectory root) := by
  have temporary : Blind (do freshDirectory (← get).temporaryDirectory "dtsemit-") :=
    World.Blind.reading (fun _ => blind_freshDirectory _ _) fun _ _ => rfl
  unfold stagingDirectory
  refine World.Blind.reading (fun w => ?_) fun _ _ => rfl
  split
  · refine Act.alike_get.bind ?_
    intro v v' logs
    rcases blind_freshDirectory (root.join "node_modules") ".dtsemit-" v v' logs with
      ⟨p, u, _, u', ran, ran', rfl, logs'⟩ | ⟨e, u, u', ran, ran', -⟩
    · simp only [Act.outcome, ran, ran']
      exact (Act.alike_set logs').bind fun _ _ _ => Act.steady_pure p
    · simp only [Act.outcome, ran, ran']
      cases e with
      | staging p e => exact (World.blind_note _ _ _).bind fun _ => temporary
      | _ => exact Act.alike_throw _
  · exact temporary

theorem blind_makeAbove (p : Path) : Blind (makeAbove p) := by
  unfold makeAbove
  split
  · exact World.blind_makePath _ _
  · exact Act.steady_pure _

theorem blind_stageSources (root overlay : Path) (sources : List (Path × SourceText)) :
    Blind (stageSources root overlay sources) := by
  induction sources with
  | nil => exact Act.steady_pure ()
  | cons source rest ih =>
    obtain ⟨p, text⟩ := source
    cases text with
    | onDisk =>
      rw [stageSources_onDisk]
      exact ih
    | inMemory text =>
      rw [stageSources_inMemory]
      exact (blind_makeAbove _).bind fun _ => (World.blind_writeText _ _ _).bind fun _ => ih

theorem blind_readFiles (logical output : Path) (names : List String) :
    Blind (readFiles logical output names) := by
  induction names with
  | nil => exact Act.steady_pure []
  | cons name rest ih =>
    unfold readFiles
    refine World.Blind.reading (fun w => ?_) fun _ _ => rfl
    split
    · exact (World.blind_readText _ _).bind fun _ => ih.bind fun _ => Act.steady_pure _
    · exact ih

theorem blind_readOutputs (l : Layout) (compiled : List (Path × Path)) : Blind (readOutputs l compiled) := by
  induction compiled with
  | nil => exact Act.steady_pure []
  | cons source rest ih =>
    obtain ⟨logical, p⟩ := source
    have files : Blind (readEmitted logical (l.output.join (l.base.relativeTo p))) := by
      unfold readEmitted
      split
      · exact blind_readFiles _ _ _
      · exact Act.steady_pure []
    exact files.bind fun _ => ih.bind fun _ => Act.steady_pure _

theorem blind_checkOutcome (command : Path) (outcome : Outcome) : Blind (checkOutcome command outcome) := by
  unfold checkOutcome
  dsimp only
  split
  · exact Act.alike_throw _
  · exact Act.steady_pure ()

theorem blind_compileIn (e : CompilerEngine) (staging : Path) : Blind (compileIn e staging) := by
  unfold compileIn
  refine (blind_stageSources _ _ _).bind fun _ => ?_
  refine World.Blind.reading (fun w => ?_) fun _ _ => rfl
  refine (World.blind_writeText _ _ _).bind fun _ => (World.blind_note _ _ _).bind fun _ => ?_
  refine (World.blind_run _ _ _).bind fun outcome => (blind_checkOutcome _ outcome).bind fun _ => ?_
  exact (World.blind_noteAll _).bind fun _ => (blind_readOutputs _ _).bind fun _ => Act.steady_pure _

theorem blind_compile (e : CompilerEngine) : Blind (compile e) := by
  have staged : Blind (do
      let staging ← stagingDirectory e.options.root
      (compileIn e staging).andFinally fun w =>
        { w with tree := w.tree.removePath w.directory staging }) := by
    refine (blind_stagingDirectory _).bind fun staging => (blind_compileIn e staging).andFinally ?_
    rintro w _ ⟨log, rfl⟩
    exact ⟨log, rfl⟩
  unfold compile
  split
  · exact (World.blind_note _ _ _).bind fun _ => staged
  · exact staged

theorem blind_ensureCompiled : BlindBeside ensureCompiled := by
  refine Act.alike_get.bind ?_
  rintro ⟨e, w⟩ ⟨_, w'⟩ ⟨rfl, -⟩
  dsimp only
  split
  · exact Act.steady_pure _
  · refine (blind_compile e).second.bind ?_
    rintro c _ rfl
    refine (Act.alike_modify ?_).bind fun _ _ _ => Act.steady_pure c
    rintro ⟨e, w⟩ ⟨_, w'⟩ ⟨rfl, logs⟩
    exact ⟨rfl, logs⟩

theorem blind_engine : engine.IsBlind where
  diagnostics := blind_ensureCompiled.bind fun _ => Act.steady_pure _
  emit := by
    refine blind_ensureCompiled.bind fun c => ?_
    apply Act.alike_modify
    rintro ⟨e, w⟩ ⟨_, w'⟩ ⟨rfl, logs⟩
    exact ⟨rfl, logs⟩

end CompilerEngine

end DeclBundle
