import DeclBundle.Proofs.Engine.Sound
import DeclBundle.Proofs.Engine.Stage

namespace DeclBundle

namespace World

def outcomeOf (w : World) (call : Call) : Outcome :=
  w.compiler w.calls.length call.invocation call.tree

def afterwards (w : World) (call : Call) : World := { w with tree := (w.outcomeOf call).tree }

theorem isFile_eq {w t : World} (tree : t.tree = w.tree) (directory : t.directory = w.directory)
    (p : Path) : t.isFile p = w.isFile p := by
  unfold World.isFile
  rw [tree, directory]

theorem textAt?_eq {w t : World} (tree : t.tree = w.tree) (directory : t.directory = w.directory)
    (p : Path) : t.textAt? p = w.textAt? p := by
  unfold World.textAt?
  rw [tree, directory]

theorem unread_iff {w t : World} (tree : t.tree = w.tree) (directory : t.directory = w.directory)
    (p : Path) : t.Unread p ↔ w.Unread p := by
  unfold World.Unread
  rw [isFile_eq tree directory, textAt?_eq tree directory]

theorem Beside.outcomeOf {w t : World} (beside : w.Beside t) (call : Call) :
    t.outcomeOf call = w.outcomeOf call := by
  unfold World.outcomeOf
  rw [beside.compiler, beside.calls]

theorem ends_run (command : Path) (arguments : List String) (directory : Path) (w : World) :
    Act.Ends (run command arguments directory) w
      (fun outcome t => ∃ call : Call, call.invocation.arguments = arguments ∧ call.tree = w.tree ∧
        outcome = w.outcomeOf call ∧ t.calls = w.calls ++ [call] ∧ t.tree = outcome.tree ∧
          t.directory = w.directory ∧ t.compiler = w.compiler)
      (fun _ t => t = w) := by
  apply Act.Ends.of_runs
  · intro outcome t ran
    unfold run at ran
    split at ran
    · cases ran
    · rename_i place found
      split at ran
      · cases ran
      · cases ran
        exact ⟨⟨⟨command, arguments, place⟩, w.tree⟩, rfl, rfl, rfl, rfl, rfl, rfl, rfl⟩
    · cases ran
  · intro e t ran
    unfold run at ran
    split at ran
    · cases ran
      rfl
    · split at ran
      · cases ran
        rfl
      · cases ran
    · cases ran
      rfl

theorem ends_run_of_found {w : World} {command directory : Path} {arguments : List String}
    {place program : Place} {code : ByteArray}
    (stands : w.tree.find w.directory directory = .ok (place, .directory))
    (slash : '/' ∈ command.text.toList)
    (runnable : w.tree.find place command = .ok (program, .file code true)) :
    let call : Call := ⟨⟨command, arguments, place⟩, w.tree⟩
    Act.Ends (run command arguments directory) w
      (fun outcome t => outcome = w.outcomeOf call ∧ t.calls = w.calls ++ [call] ∧
        t.tree = outcome.tree ∧ t.directory = w.directory)
      fun _ _ => False := by
  have nonempty : ¬command.text.isEmpty := by
    intro empty
    rw [String.isEmpty_iff] at empty
    simp [empty] at slash
  have located : w.locate place command = .ok () := by
    unfold World.locate runnable?
    rw [if_neg nonempty, if_pos (by simpa using slash), runnable]
  apply Act.Ends.of_runs
  · intro outcome t ran
    unfold run at ran
    simp only [stands, located] at ran
    cases ran
    exact ⟨rfl, rfl, rfl, rfl⟩
  · intro error t ran
    unfold run at ran
    simp only [stands, located] at ran
    cases ran

end World

def Outcome.Explained (o : Outcome) : Prop :=
  o.status ≠ 0 ∧ Text.allBlank (CompilerEngine.printed o.stdout) ∧
    ¬Text.allBlank (CompilerEngine.printed o.stderr)

namespace CompilerEngine

theorem printed_empty : printed .empty = [] := by
  rw [printed, ByteArray.toList, ByteArray.toList.loop, ByteArray.size_empty, if_neg (by decide)]
  simp [Text.decodeLossy]

theorem not_explained_of_silent {o : Outcome} (silent : o.stderr = .empty) : ¬o.Explained := by
  intro explained
  have said := explained.2.2
  rw [silent, printed_empty] at said
  exact said rfl

def compiledIn (e : CompilerEngine) (staging : Path) : List Path :=
  e.sources.entries.map (Staging.compiledPath e.options.root (staging.join "overlay"))

def layoutIn (e : CompilerEngine) (staging : Path) : Layout :=
  ⟨staging.join "overlay", staging.join "out",
    Staging.baseDirectory e.options.root (compiledIn e staging)⟩

def outputBeside (e : CompilerEngine) (staging c : Path) : Path :=
  (layoutIn e staging).output.join ((layoutIn e staging).base.relativeTo c)

def Garbled (e : CompilerEngine) (staging : Path) (w : World) : Prop :=
  ∃ source ∈ e.sources.paths.zip (compiledIn e staging), ∃ name ∈ Staging.declaredNames source.1,
    w.Unread ((outputBeside e staging source.2).withFileName name)

theorem garbled_iff {w t : World} (tree : t.tree = w.tree) (directory : t.directory = w.directory)
    (e : CompilerEngine) (staging : Path) : Garbled e staging t ↔ Garbled e staging w := by
  simp only [Garbled, World.unread_iff tree directory]

def exitError (e : CompilerEngine) (o : Outcome) : Error :=
  .compilerExit e.command o.status (String.ofList (Text.trim (printed o.stderr)))

def diagnosed (e : CompilerEngine) (staging : Path) (o : Outcome) : List Diagnostic × List String :=
  Diagnostic.parse
    (reportedFile e.options.root
      (Staging.stagedPaths e.options.root (staging.join "overlay") e.sources.entries))
    (printed o.stdout)

/-- What is left to do when the compiler has stopped. -/
def settle (e : CompilerEngine) (staging : Path) (o : Outcome) : Act World Compilation := do
  checkOutcome e.command o
  let (diagnostics, unknown) := diagnosed e staging o
  World.noteAll (unknown.map fun line => ⟨.debug, .compiler, "Unrecognized tsc output: " ++ line⟩)
  let outputs ← readOutputs (layoutIn e staging) (e.sources.paths.zip (compiledIn e staging))
  return ⟨diagnostics, outputs, false⟩

variable {good : Unit → World → Prop} {bad : Error → World → Prop}

@[simp] theorem ends_checkOutcome (e : CompilerEngine) (o : Outcome) (w : World) :
    Act.Ends (checkOutcome e.command o) w good bad ↔
      (¬o.Explained → good () w) ∧ (o.Explained → bad (e.exitError o) w) := by
  have failed : (o.status != 0 && Text.allBlank (printed o.stdout) && !Text.allBlank (printed o.stderr)) =
      true ↔ o.Explained := by
    simp [Outcome.Explained, and_assoc]
  unfold checkOutcome
  dsimp only
  rw [Act.ends_ite, Act.ends_throw, Act.ends_pure, failed, and_comm]
  rfl

theorem ends_settle (e : CompilerEngine) (staging : Path) (o : Outcome) (w : World) :
    Act.Ends (settle e staging o) w
      (fun c t => w.Logs t ∧ ¬o.Explained ∧ ¬Garbled e staging w ∧
        c = ⟨(diagnosed e staging o).1, (e.sources.paths.zip (compiledIn e staging)).map
          fun (logical, compiled) => filesAt w logical (outputBeside e staging compiled)
            (Staging.declaredNames logical), false⟩)
      fun error t => w.Logs t ∧
        (o.Explained ∧ error = e.exitError o ∨ ¬o.Explained ∧ Garbled e staging w) := by
  unfold settle
  rw [Act.ends_bind, ends_checkOutcome]
  refine ⟨fun unexplained => ?_, fun explained => ⟨w.logs_refl, .inl ⟨explained, rfl⟩⟩⟩
  rw [Act.ends_bind, World.ends_noteAll, Act.ends_bind]
  refine (ends_readOutputs ..).mono ?_ ?_
  · rintro outputs t ⟨rfl, rfl, readable⟩
    rw [Act.ends_pure]
    refine ⟨⟨_, rfl⟩, unexplained, ?_, rfl⟩
    rintro ⟨source, member, name, named, unread⟩
    exact readable source member name named unread
  · rintro error t ⟨rfl, garbled⟩
    exact ⟨⟨_, rfl⟩, .inr ⟨unexplained, garbled⟩⟩

end CompilerEngine

end DeclBundle
