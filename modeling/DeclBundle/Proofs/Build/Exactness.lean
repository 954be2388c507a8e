import DeclBundle.Proofs.Build.DryRun
import DeclBundle.Proofs.Engine.Blind

namespace DeclBundle

open Act (Alike SameFirst Steady)

namespace Sink

variable {κ : Type}

def IsBlind (sink : Sink κ) : Prop := ∀ p text, World.BlindBeside (sink.write p text)

theorem isBlind_disk : disk.IsBlind := by
  intro p text
  apply Alike.second
  dsimp only
  split
  · exact (World.blind_makePath _ _).bind fun _ => World.blind_writeText _ _ _
  · exact World.blind_writeText _ _ _

theorem isBlind_memory : memory.IsBlind := by
  intro p text
  refine Act.alike_get.bind ?_
  rintro ⟨s, w⟩ ⟨_, w'⟩ ⟨rfl, logs⟩
  dsimp only
  split
  · exact Act.alike_throw _
  · exact Act.alike_set ⟨rfl, logs⟩

theorem IsBlind.traced {sink : Sink κ} (blind : sink.IsBlind) : sink.traced.IsBlind := by
  rintro p text ⟨⟨attempts, k⟩, w⟩ ⟨_, w'⟩ ⟨rfl, logs⟩
  simp only [Sink.traced]
  rcases blind p text (k, w) (k, w') ⟨rfl, logs⟩ with
    ⟨⟨⟩, ⟨k₁, w₁⟩, ⟨⟩, ⟨_, w₂⟩, ran, ran', -, rfl, logs'⟩ | ⟨e, ⟨k₁, w₁⟩, ⟨_, w₂⟩, ran, ran', rfl, logs'⟩
  · rw [ran, ran']
    exact .inl ⟨_, _, _, _, rfl, rfl, trivial, rfl, logs'⟩
  · rw [ran, ran']
    exact .inr ⟨_, _, _, rfl, rfl, rfl, logs'⟩

end Sink

namespace Output

variable {output : Output}

theorem declarationDirectory_eq_error (file : output.file = none) (directory : output.directory = none)
    (root : Path) : output.declarationDirectory root = .error .noOutputTarget := by
  unfold declarationDirectory
  rw [file, directory]

theorem exists_declarationDirectory (named : output.file ≠ none ∨ output.directory ≠ none) (root : Path) :
    ∃ directory, output.declarationDirectory root = .ok directory := by
  obtain ⟨file | file, directory | directory⟩ := output
  · simp at named
  all_goals exact ⟨_, rfl⟩

end Output

namespace Emission

variable {ε κ : Type} (engine : Engine ε) (sink : Sink κ) (r : Rerooting) (directory : Path)

/-- From `s` to `t` the engine reports diagnostics and emits, and then it knows the files of each module. -/
structure Answers (registry : Registry) (s : ε × World) (ds : List Diagnostic) (t : ε × World)
    (files : Handle → List EmittedFile) : Prop where
  emits : ∃ e w, engine.diagnostics (s.1, s.2.addNote (heading directory registry)) = .ok ds (e, w) ∧
    engine.emit (e, report ds w) = .ok () t
  emitted : ∀ h ∈ registry.handles, engine.emitted t.1 h.id = .ok (files h)

variable {engine directory} {registry : Registry} {output : Output} {e e' : ε} {w w' : World}
  {ds : List Diagnostic} {files : Handle → List EmittedFile}

theorem Answers.flatMap_filesOf (answers : Answers engine directory registry (e, w) ds (e', w') files) :
    registry.handles.flatMap (filesOf engine e') = registry.handles.flatMap files := by
  apply List.flatMap_congr
  intro h member
  rw [filesOf, answers.emitted h member]
  rfl

theorem emitDeclarations_of_answers
    (answers : Answers engine directory registry (e, w) ds (e', w') files)
    (target : output.declarationDirectory r.root = .ok directory) (k : κ) :
    emitDeclarations engine sink r registry output (e, k, w) =
      finish engine sink r directory registry ds.length (e', k, w') := by
  obtain ⟨e₁, w₁, surveyed, emitted⟩ := answers.emits
  have prepared : prepare engine r registry output (e, w) = .ok (directory, ds.length) (e', w') := by
    rw [prepare_eq, target]
    simp only [Bind.bind, EStateM.bind, Act.ofExcept, modify, modifyGet, MonadStateOf.modifyGet,
      EStateM.modifyGet, surveyed, emitted]
    rfl
  rw [emitDeclarations_eq]
  simp only [Bind.bind, EStateM.bind, onEngine, Act.focus, prepared]

theorem ends_emitDeclarations_of_answers
    (answers : Answers engine directory registry (e, w) ds (e', w') files)
    (target : output.declarationDirectory r.root = .ok directory) (k : κ) :
    Act.Ends (emitDeclarations engine sink r registry output) (e, k, w)
      (fun summary t => t.1 = e' ∧
        summary = ⟨registry.handles.length, ds.length,
          targets r directory (registry.handles.flatMap files)⟩ ∧
        sink.Delivers (k, w') (attempts r directory (registry.handles.flatMap files)) t.2 ∧
        emitDeclarations engine sink.traced r registry output (e, ([], k), w) =
          .ok summary (e', (attempts r directory (registry.handles.flatMap files), t.2.1), t.2.2))
      fun error t => t.1 = e' ∧ ∃ before f after,
        registry.handles.flatMap files = before ++ f :: after ∧
        sink.Delivers (k, w')
          (attempts r directory before ++ [⟨r.target directory f.path, r.text f.text, some error⟩]) t.2 ∧
        emitDeclarations engine sink.traced r registry output (e, ([], k), w) = .error error
          (e', (attempts r directory before ++
            [⟨r.target directory f.path, r.text f.text, some error⟩], t.2.1), t.2.2) := by
  have known : ∀ h ∈ registry.handles, ∃ files, engine.emitted e' h.id = .ok files :=
    fun h member => ⟨files h, answers.emitted h member⟩
  have traces := traces_finish engine sink r directory registry ds.length (e', k, w') known []
  have delivered := ends_finish engine sink.traced r directory registry ds.length e' known ([], k) w'
  rw [answers.flatMap_filesOf] at delivered
  rw [emitDeclarations_of_answers sink.traced r answers target]
  apply Act.Ends.of_runs
  · intro summary t run
    rw [emitDeclarations_of_answers sink r answers target] at run
    obtain ⟨made, -, trace⟩ := traces.ok run
    obtain ⟨same, whole, delivers⟩ := delivered.ok trace
    obtain ⟨rfl, delivers'⟩ := delivers.of_traced
    obtain ⟨e₁, k₁, w₁⟩ := t
    obtain rfl : e₁ = e' := same
    exact ⟨rfl, whole, delivers', trace⟩
  · intro error t run
    rw [emitDeclarations_of_answers sink r answers target] at run
    obtain ⟨made, -, trace⟩ := traces.error run
    obtain ⟨same, before, f, after, split, delivers⟩ := delivered.error trace
    obtain ⟨rfl, delivers'⟩ := delivers.of_traced
    obtain ⟨e₁, k₁, w₁⟩ := t
    obtain rfl : e₁ = e' := same
    exact ⟨rfl, before, f, after, split, delivers', trace⟩

def SameButLog : State ε κ → State ε κ → Prop := SameFirst (SameFirst World.Logs)

variable {α β : Type} {sink}

theorem alike_onEngine {R : α → β → Prop} {x : Act (ε × World) α} {y : Act (ε × World) β}
    (alike : Alike R (SameFirst World.Logs) x y) :
    Alike R SameButLog (onEngine x : Act (State ε κ) α) (onEngine y) :=
  alike.focus (fun _ _ same => ⟨same.1, same.2.2⟩) fun _ _ same _ _ kept => ⟨kept.1, same.2.1, kept.2⟩

theorem steady_onSink {x : Act (κ × World) α} (blind : World.BlindBeside x) :
    Steady SameButLog (onSink x : Act (State ε κ) α) :=
  Alike.focus blind (fun _ _ same => same.2) fun _ _ same _ _ kept => ⟨same.1, kept⟩

theorem steady_note (level : Level) (text : String) :
    Steady SameButLog (note level text : Act (State ε κ) Unit) :=
  (World.blind_note level .emit text).second.second

theorem steady_writeFiles (blind : sink.IsBlind) (files : List EmittedFile) :
    Steady SameButLog (writeFiles sink r directory files : Act (State ε κ) (List Path)) := by
  induction files with
  | nil => exact Act.steady_pure []
  | cons f rest ih =>
    refine (steady_note _ _).bind fun _ => (steady_onSink (blind _ _)).bind fun _ => ?_
    exact ih.bind fun _ => Act.steady_pure _

theorem steady_noteBare (h : Handle) (files : List EmittedFile) :
    Steady SameButLog (noteBare h files : Act (State ε κ) Unit) := by
  unfold noteBare
  split
  · exact steady_note _ _
  · exact Act.steady_pure ()

variable {a b : Engine ε}

theorem alike_writeModules (same : a.emitted = b.emitted) (blind : sink.IsBlind) (handles : List Handle) :
    Alike Eq SameButLog (writeModules a sink r directory handles)
      (writeModules b sink r directory handles) := by
  induction handles with
  | nil => exact Act.steady_pure []
  | cons h rest ih =>
    rw [writeModules_cons, writeModules_cons, same]
    have query : Steady SameButLog
        (do Act.ofExcept (b.emitted (← get).1 h.id) : Act (State ε κ) (List EmittedFile)) := by
      refine Act.alike_get.bind ?_
      rintro ⟨e, s⟩ ⟨_, t⟩ ⟨rfl, -⟩
      exact Act.alike_ofExcept _
    refine query.alike_bind fun files => (steady_noteBare h files).alike_bind fun _ => ?_
    refine (steady_writeFiles r blind files).alike_bind fun written => ih.bind ?_
    rintro more _ rfl
    exact Act.steady_pure _

theorem alike_prepare (other : a.OtherDiagnostics b) (registry : Registry) (output : Output) :
    Alike (fun x y => x.1 = y.1) (SameFirst World.Logs) (prepare a r registry output)
      (prepare b r registry output) := by
  rw [prepare_eq, prepare_eq]
  refine (Act.alike_ofExcept _).bind ?_
  rintro directory _ rfl
  refine (Act.alike_modify ?_).bind fun _ _ _ => other.diagnostics.bind fun ds ds' _ => ?_
  · rintro ⟨e, w⟩ ⟨_, w'⟩ ⟨rfl, logs⟩
    exact ⟨rfl, (World.logs_addNote _ w).symm.trans (logs.trans (World.logs_addNote _ w'))⟩
  refine (Act.alike_modify ?_).bind fun _ _ _ => ?_
  · rintro ⟨e, w⟩ ⟨_, w'⟩ ⟨rfl, logs⟩
    exact ⟨rfl, (logs_report ds w).symm.trans (logs.trans (logs_report ds' w'))⟩
  exact other.emit.bind fun _ _ _ => Act.alike_pure rfl

theorem alike_finish (same : a.emitted = b.emitted) (blind : sink.IsBlind) (registry : Registry)
    (m n : Nat) :
    Alike (fun x y => x.modules = y.modules ∧ x.written = y.written) SameButLog
      (finish a sink r directory registry m) (finish b sink r directory registry n) := by
  refine (alike_writeModules r same blind registry.handles).bind ?_
  rintro written _ rfl
  exact (steady_note _ _).alike_bind fun _ => Act.alike_pure ⟨rfl, rfl⟩

theorem alike_emitDeclarations (other : a.OtherDiagnostics b) (blind : sink.IsBlind)
    (registry : Registry) (output : Output) :
    Alike (fun x y => x.modules = y.modules ∧ x.written = y.written) SameButLog
      (emitDeclarations a sink r registry output) (emitDeclarations b sink r registry output) := by
  rw [emitDeclarations_eq, emitDeclarations_eq]
  refine (alike_onEngine (alike_prepare r other registry output)).bind ?_
  rintro ⟨directory, m⟩ ⟨_, n⟩ rfl
  exact alike_finish r other.emitted blind registry m n

/-- What the compiler complains about has no part in the files on the disk. -/
theorem alike_emitDeclarations_disk (change : List Diagnostic → List Diagnostic) (registry : Registry)
    (output : Output) :
    Alike (fun x y => x.modules = y.modules ∧ x.written = y.written) SameButLog
      (emitDeclarations CompilerEngine.engine Sink.disk r registry output)
      (emitDeclarations
        { CompilerEngine.engine with diagnostics := change <$> CompilerEngine.engine.diagnostics }
        Sink.disk r registry output) :=
  alike_emitDeclarations r (CompilerEngine.blind_engine.otherDiagnostics change) Sink.isBlind_disk registry
    output

theorem attempts_eq (r : Rerooting) (directory : Path) (files : List EmittedFile) :
    attempts r directory files = (files.map fun f => (r.target directory f.path, r.text f.text)).map
      fun x => ⟨x.1, x.2, none⟩ := by
  simp only [attempts, List.map_map, Function.comp_def]

open MemoryEngine (emitAll)

def cardSources : MemoryEngine :=
  ⟨⟨[("/proj/suit.ts", "export const suit = 1"), ("/proj/Card.vue.ts", "export * from './Face.vue'")]⟩, []⟩

def cardRegistry : Registry :=
  let script : Handle := ⟨⟨1⟩, "/proj/Card.vue.ts", .scriptBlock⟩
  ⟨[script, ⟨⟨0⟩, "/proj/suit.ts", .source⟩, script]⟩

def cardRerooting : Rerooting := ⟨"/proj", true⟩

def cardOutput : Output := { directory := some "dist" }

def cardWrites : List (Path × String) :=
  [("/proj/dist/Card.d.ts", "export * from './Face'\n"), ("/proj/dist/suit.d.ts", "export const suit = 1\n"),
    ("/proj/dist/Card.d.ts", "export * from './Face'\n")]

def cardRun {κ : Type} (script : MemoryScript) (sink : Sink κ) (k : κ) :
    EStateM.Result Error (State MemoryEngine κ) Summary :=
  emitDeclarations (MemoryEngine.engine script) sink cardRerooting cardRegistry cardOutput
    (cardSources, k, Build.bareWorld)

theorem declarationDirectory_card : cardOutput.declarationDirectory cardRerooting.root = .ok "/proj/dist" := by
  have directory : Path.resolve "/proj" "dist" = "/proj/dist" := by decide +kernel
  rw [← directory]
  rfl

theorem answers_card : Answers (MemoryEngine.engine {}) "/proj/dist" cardRegistry
    (cardSources, Build.bareWorld) []
    (emitAll {} cardSources, Build.bareWorld.addNote (heading "/proj/dist" cardRegistry))
    (filesOf (MemoryEngine.engine {}) (emitAll {} cardSources)) where
  emits := ⟨cardSources, _, rfl, rfl⟩
  emitted := by
    intro h member
    simp only [cardRegistry, List.mem_cons, List.not_mem_nil, or_false] at member
    rcases member with rfl | rfl | rfl <;> rfl

theorem attempts_card : attempts cardRerooting "/proj/dist" (cardRegistry.handles.flatMap
    (filesOf (MemoryEngine.engine {}) (emitAll {} cardSources))) =
      cardWrites.map fun x => ⟨x.1, x.2, none⟩ := by
  have writes : (cardRegistry.handles.flatMap
      (filesOf (MemoryEngine.engine {}) (emitAll {} cardSources))).map (fun f =>
        (cardRerooting.target "/proj/dist" f.path, cardRerooting.text f.text)) = cardWrites := by
    decide +kernel
  rw [attempts_eq, writes]

def summary? {σ : Type} : EStateM.Result Error σ Summary → Option Summary
  | .ok summary _ => some summary
  | .error _ _ => none

theorem exists_of_summary? {σ : Type} {ended : EStateM.Result Error σ Summary} {summary : Summary}
    (good : summary? ended = some summary) : ∃ t, ended = .ok summary t := by
  cases ended with
  | ok x t => exact ⟨t, congrArg (EStateM.Result.ok · t) (Option.some.inj good)⟩
  | error e t => cases good

/-- Without a target an emission calls neither its engine nor its sink. With one, the sink is called for the
files that the engine has for the modules, in their order, each under its target and with its text, until it
refuses one. What the engine reports is counted, and has no part in what is written. -/
theorem writes_exactly {ε κ : Type} (engine : Engine ε) (sink : Sink κ) (r : Rerooting)
    (registry : Registry) (output : Output) :
    (output.file = none → output.directory = none → ∀ s,
      emitDeclarations engine sink r registry output s = .error .noOutputTarget s) ∧
    (output.file ≠ none ∨ output.directory ≠ none → ∃ directory,
      output.declarationDirectory r.root = .ok directory ∧
      ∀ e k w ds e' w' files, Answers engine directory registry (e, w) ds (e', w') files →
        Act.Ends (emitDeclarations engine sink r registry output) (e, k, w)
          (fun summary t => t.1 = e' ∧
            summary = ⟨registry.handles.length, ds.length,
              targets r directory (registry.handles.flatMap files)⟩ ∧
            sink.Delivers (k, w') (attempts r directory (registry.handles.flatMap files)) t.2 ∧
            emitDeclarations engine sink.traced r registry output (e, ([], k), w) = .ok summary
              (e', (attempts r directory (registry.handles.flatMap files), t.2.1), t.2.2))
          fun error t => t.1 = e' ∧ ∃ before f after,
            registry.handles.flatMap files = before ++ f :: after ∧
            sink.Delivers (k, w') (attempts r directory before ++
              [⟨r.target directory f.path, r.text f.text, some error⟩]) t.2 ∧
            emitDeclarations engine sink.traced r registry output (e, ([], k), w) = .error error
              (e', (attempts r directory before ++
                [⟨r.target directory f.path, r.text f.text, some error⟩], t.2.1), t.2.2)) ∧
    ∀ other, engine.OtherDiagnostics other → sink.IsBlind →
      Alike (fun x y => x.modules = y.modules ∧ x.written = y.written) SameButLog
        (emitDeclarations engine sink.traced r registry output)
        (emitDeclarations other sink.traced r registry output) := by
  refine ⟨?_, ?_, ?_⟩
  · intro file directory s
    unfold emitDeclarations
    rw [Output.declarationDirectory_eq_error file directory]
    rfl
  · intro named
    obtain ⟨directory, target⟩ := Output.exists_declarationDirectory named r.root
    refine ⟨directory, target, ?_⟩
    intro e k w ds e' w' files answers
    exact ends_emitDeclarations_of_answers sink r answers target k
  · intro other differs blind
    exact alike_emitDeclarations r differs blind.traced registry output

theorem writes_exactly_card :
    (∀ s, emitDeclarations (MemoryEngine.engine {}) Sink.memory cardRerooting cardRegistry {} s =
      .error .noOutputTarget s) ∧
    (∃ t w, cardRun {} Sink.memory {} = .ok ⟨3, 0, cardWrites.map Prod.fst⟩ t ∧
      Sink.memory.Delivers ({}, w) (cardWrites.map fun x => ⟨x.1, x.2, none⟩) t.2) ∧
    ∃ x s y t, cardRun {} Sink.memory.traced ([], {}) = .ok x s ∧
      cardRun { diagnostics := some [⟨.error, 2322, "broken", none⟩] } Sink.memory.traced ([], {}) = .ok y t ∧
      x.diagnostics = 0 ∧ y.diagnostics = 1 ∧ x.written = y.written ∧ s.2.1 = t.2.1 := by
  refine ⟨?_, ?_, ?_⟩
  · exact (writes_exactly (MemoryEngine.engine {}) Sink.memory cardRerooting cardRegistry {}).1 rfl rfl
  · obtain ⟨directory, target, ends⟩ := (writes_exactly (MemoryEngine.engine {}) Sink.memory cardRerooting
      cardRegistry cardOutput).2.1 (.inr nofun)
    obtain rfl : directory = "/proj/dist" := Except.ok.inj (target.symm.trans declarationDirectory_card)
    obtain ⟨t, ran⟩ : ∃ t, cardRun {} Sink.memory {} = .ok ⟨3, 0, cardWrites.map Prod.fst⟩ t := by
      apply exists_of_summary?
      decide +kernel
    obtain ⟨-, -, delivers, -⟩ := (ends _ _ _ _ _ _ _ answers_card).ok ran
    rw [attempts_card] at delivers
    exact ⟨t, _, ran, delivers⟩
  · have alike := (writes_exactly (MemoryEngine.engine {}) Sink.memory cardRerooting cardRegistry
      cardOutput).2.2 _ (MemoryEngine.otherDiagnostics {} (some [⟨.error, 2322, "broken", none⟩]))
      Sink.isBlind_memory
    obtain ⟨s, ran⟩ : ∃ s, cardRun {} Sink.memory.traced ([], {}) =
        .ok ⟨3, 0, cardWrites.map Prod.fst⟩ s := by
      apply exists_of_summary?
      decide +kernel
    obtain ⟨t, ran'⟩ : ∃ t, cardRun { diagnostics := some [⟨.error, 2322, "broken", none⟩] }
        Sink.memory.traced ([], {}) = .ok ⟨3, 1, cardWrites.map Prod.fst⟩ t := by
      apply exists_of_summary?
      decide +kernel
    rcases alike (cardSources, ([], {}), Build.bareWorld) _ ⟨rfl, rfl, World.logs_refl _⟩ with
      ⟨x, s', y, t', first, second, ⟨-, written⟩, -, same, -⟩ | ⟨e, s', t', failed, -⟩
    · refine ⟨x, s', y, t', first, second, ?_, ?_, written, same⟩
      · cases ran.symm.trans first
        rfl
      · cases ran'.symm.trans second
        rfl
    · cases ran.symm.trans failed

example : (match cardRun {} Sink.memory { refuses := some 1 } with
    | .ok _ _ => none
    | .error _ t => some t.2.1.written) = some (cardWrites.take 1) := by decide +kernel

end Emission

end DeclBundle
