import DeclBundle.Build.Plugin
import DeclBundle.Proofs.World

namespace DeclBundle.Emission

variable {ε κ α : Type}

variable (engine : Engine ε) (sink : Sink κ) (r : Rerooting) (directory : Path)

def targets (files : List EmittedFile) : List Path := files.map fun f => r.target directory f.path

theorem ends_writeFiles (files : List EmittedFile) (s : State ε κ) :
    Act.Ends (writeFiles sink r directory files) s
      (fun written t => t.1 = s.1 ∧ written = targets r directory files) fun _ _ => True := by
  induction files generalizing s with
  | nil => simp [writeFiles, targets]
  | cons file rest ih =>
    simp only [writeFiles, note, onSink, Act.ends_bind, Act.ends_second, World.ends_note,
      Act.ends_focus, Act.ends_pure]
    refine .of_runs (fun _ _ _ => (ih _).mono ?_ fun _ _ _ => trivial) fun _ _ _ => trivial
    rintro written t ⟨same, rfl⟩
    exact ⟨same, rfl⟩

def noteBare (h : Handle) (files : List EmittedFile) : Act (State ε κ) Unit :=
  if files.isEmpty then
    note .debug ("No declarations for " ++ h.logicalPath.text ++ " (" ++ h.kind.label ++ ")")
  else pure ()

theorem writeModules_cons (h : Handle) (rest : List Handle) :
    (writeModules engine sink r directory (h :: rest) : Act (State ε κ) (List Path)) = (do
      let files ← (do Act.ofExcept (engine.emitted (← get).1 h.id))
      noteBare h files
      let written ← writeFiles sink r directory files
      return written ++ (← writeModules engine sink r directory rest)) := by
  rw [writeModules, bind_assoc]
  congr 1
  funext s
  congr 1
  funext files
  unfold noteBare
  split <;> rfl

theorem ends_noteBare (h : Handle) (files : List EmittedFile) (s : State ε κ) :
    Act.Ends (noteBare h files) s (fun _ t => ∃ w, s.2.2.Noted w ∧ t = (s.1, s.2.1, w)) fun _ _ => False := by
  unfold noteBare
  split
  · simp only [note, Act.ends_second, World.ends_note]
    exact ⟨_, .inr ⟨_, rfl⟩, rfl⟩
  · rw [Act.ends_pure]
    exact ⟨s.2.2, .inl rfl, rfl⟩

theorem ends_writeModules_cons {good : List Path → State ε κ → Prop} {bad : Error → State ε κ → Prop}
    (h : Handle) (rest : List Handle) (s : State ε κ)
    (given : ∀ files w, engine.emitted s.1 h.id = .ok files → s.2.2.Noted w →
      Act.Ends (writeFiles sink r directory files) (s.1, s.2.1, w)
        (fun written t => Act.Ends (writeModules engine sink r directory rest) t
          (fun more => good (written ++ more)) bad)
        bad)
    (refused : ∀ e, engine.emitted s.1 h.id = .error e → bad e s) :
    Act.Ends (writeModules engine sink r directory (h :: rest)) s good bad := by
  rw [writeModules_cons, Act.ends_bind, Act.ends_bind, Act.ends_get, Act.ends_ofExcept]
  refine ⟨fun files found => ?_, refused⟩
  rw [Act.ends_bind]
  refine (ends_noteBare h files s).mono ?_ fun _ _ => False.elim
  rintro _ t ⟨w, noted, rfl⟩
  simp only [Act.ends_bind, Act.ends_pure]
  exact given files w found noted

def filesOf (e : ε) (h : Handle) : List EmittedFile := (engine.emitted e h.id).toOption.getD []

theorem ends_writeModules (handles : List Handle) (s : State ε κ) :
    Act.Ends (writeModules engine sink r directory handles) s
      (fun written t => t.1 = s.1 ∧
        written = handles.flatMap fun h => targets r directory (filesOf engine s.1 h))
      fun _ _ => True := by
  induction handles generalizing s with
  | nil => simp [writeModules]
  | cons h rest ih =>
    refine ends_writeModules_cons engine sink r directory h rest s ?_ fun _ _ => trivial
    intro files w found _
    refine (ends_writeFiles sink r directory files (s.1, s.2.1, w)).mono ?_ fun _ _ _ => trivial
    rintro _ t ⟨same, rfl⟩
    refine (ih t).mono ?_ fun _ _ _ => trivial
    rintro _ u ⟨same', rfl⟩
    refine ⟨same'.trans same, ?_⟩
    rw [same, List.flatMap_cons]
    congr 2
    simp [filesOf, found, Except.toOption]

def prepare (registry : Registry) (output : Output) : Act (ε × World) (Path × Nat) := do
  let directory ← Act.ofExcept (output.declarationDirectory r.root)
  (World.note .debug .emit ("Writing declarations for " ++ toString (registry.count .source) ++
    " sources and " ++ toString (registry.count .scriptBlock) ++ " script blocks into " ++
    directory.text)).second
  let diagnostics ← engine.diagnostics
  if !diagnostics.isEmpty then (World.note .warn .emit (Diagnostic.format diagnostics)).second
  engine.emit
  return (directory, diagnostics.length)

def finish (registry : Registry) (count : Nat) : Act (State ε κ) Summary := do
  let written ← writeModules engine sink r directory registry.handles
  note .info ("Emitted " ++ toString written.length ++ " declaration files for " ++
    toString registry.size ++ " modules")
  return ⟨registry.size, count, written⟩

theorem onEngine_bind {α β : Type} (x : Act (ε × World) β) (f : β → Act (ε × World) α) :
    (onEngine (x >>= f) : Act (State ε κ) α) = onEngine x >>= fun y => onEngine (f y) := by
  unfold onEngine
  apply Act.focus_bind
  · exact fun _ _ => rfl
  · exact fun _ _ _ => rfl

theorem onEngine_ofExcept {α : Type} (result : Except Error α) :
    (onEngine (Act.ofExcept result) : Act (State ε κ) α) = Act.ofExcept result := by
  cases result <;> rfl

theorem emitDeclarations_eq (registry : Registry) (output : Output) :
    emitDeclarations engine sink r registry output = (do
      let (directory, count) ← onEngine (prepare engine r registry output)
      finish engine sink r directory registry count) := by
  have noted (level : Level) (text : String) :
      (onEngine (World.note level .emit text).second : Act (State ε κ) Unit) = note level text := rfl
  have done (x : Path × Nat) : (onEngine (pure x) : Act (State ε κ) (Path × Nat)) = pure x := rfl
  unfold emitDeclarations prepare finish
  simp only [onEngine_bind, onEngine_ofExcept, noted, bind_assoc]
  congr 1
  funext directory
  congr 1
  funext _
  congr 1
  funext diagnostics
  split
  · simp only [onEngine_bind, noted, done, bind_assoc, pure_bind]
  · simp only [onEngine_bind, done, bind_assoc, pure_bind]

def heading (registry : Registry) : Record :=
  ⟨.debug, .emit, "Writing declarations for " ++ toString (registry.count .source) ++
    " sources and " ++ toString (registry.count .scriptBlock) ++ " script blocks into " ++ directory.text⟩

def report (ds : List Diagnostic) (w : World) : World :=
  if ds.isEmpty then w else w.addNote ⟨.warn, .emit, Diagnostic.format ds⟩

theorem logs_report (ds : List Diagnostic) (w : World) : w.Logs (report ds w) := by
  unfold report
  split
  · exact w.logs_refl
  · exact w.logs_addNote _

theorem prepare_eq (registry : Registry) (output : Output) : prepare engine r registry output = (do
    let directory ← Act.ofExcept (output.declarationDirectory r.root)
    modify fun (e, w) => (e, w.addNote (heading directory registry))
    let ds ← engine.diagnostics
    modify fun (e, w) => (e, report ds w)
    engine.emit
    return (directory, ds.length)) := by
  unfold prepare
  congr 1
  funext directory
  congr 1
  funext _
  congr 1
  funext ds
  cases ds <;> rfl

variable {engine sink r directory} {registry : Registry} {output : Output} {e : ε} {k : κ} {w : World}

/-- The engine is asked for diagnostics once it is known where to write, and then it emits. Nothing else
happens meanwhile but for the log. -/
theorem ends_prepare {good : Path × Nat → ε × World → Prop} {bad : Error → ε × World → Prop}
    (nowhere : ∀ error, output.declarationDirectory r.root = .error error → bad error (e, w))
    (asked : ∀ directory, output.declarationDirectory r.root = .ok directory → ∀ t, w.Logs t →
      Act.Ends engine.diagnostics (e, t)
        (fun ds u => ∀ v, u.2.Logs v →
          Act.Ends engine.emit (u.1, v) (fun _ => good (directory, ds.length)) bad)
        bad) :
    Act.Ends (prepare engine r registry output) (e, w) good bad := by
  rw [prepare_eq, Act.ends_bind, Act.ends_ofExcept]
  refine ⟨fun directory found => ?_, nowhere⟩
  simp only [Act.ends_bind, Act.ends_modify, Act.ends_pure]
  refine (asked directory found _ (w.logs_addNote _)).mono ?_ fun _ _ => id
  exact fun ds u emits => emits _ (logs_report ds u.2)

theorem ends_emitDeclarations_iff {good : Summary → State ε κ → Prop} {bad : Error → State ε κ → Prop} :
    Act.Ends (emitDeclarations engine sink r registry output) (e, k, w) good bad ↔
      Act.Ends (prepare engine r registry output) (e, w)
        (fun x t => Act.Ends (finish engine sink r x.1 registry x.2) (t.1, k, t.2) good bad)
        fun error t => bad error (t.1, k, t.2) := by
  rw [emitDeclarations_eq, Act.ends_bind, onEngine, Act.ends_focus]

variable (engine sink r directory)

theorem ends_emitDeclarations (registry : Registry) (output : Output) (s : State ε κ) :
    Act.Ends (emitDeclarations engine sink r registry output) s
      (fun summary t => ∃ directory w ds e w₁ w₂ w₃,
        engine.diagnostics (s.1, w) = .ok ds (e, w₁) ∧ engine.emit (e, w₂) = .ok () (t.1, w₃) ∧
          summary.written =
            registry.handles.flatMap fun h => targets r directory (filesOf engine t.1 h))
      fun _ _ => True := by
  rw [ends_emitDeclarations_iff]
  refine ends_prepare (fun _ _ => trivial) fun directory _ w _ => ?_
  refine .of_runs (fun ds u surveyed w₂ _ => ?_) fun _ _ _ => trivial
  refine .of_runs (fun _ u' emitted => ?_) fun _ _ _ => trivial
  unfold finish
  rw [Act.ends_bind]
  refine (ends_writeModules engine sink r directory registry.handles _).mono ?_ fun _ _ _ => trivial
  rintro _ v ⟨same, rfl⟩
  simp only [note, Act.ends_bind, Act.ends_second, World.ends_note, Act.ends_pure]
  refine ⟨directory, w, ds, u.1, u.2, w₂, u'.2, surveyed, ?_, by rw [same]⟩
  rw [same]
  exact emitted

end DeclBundle.Emission
