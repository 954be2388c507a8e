import DeclBundle.Proofs.Engine.Launch

namespace DeclBundle

namespace World

def Idle {α : Type} (a : Act World α) : Prop :=
  ∀ w, Act.Ends a w (fun _ t => w.Beside t) fun _ t => w.Beside t

def OneMore (w t : World) : Prop := ∃ call, t.calls = w.calls ++ [call]

theorem beside_refl (w : World) : w.Beside w := ⟨rfl, rfl, rfl⟩

section Idle

variable {α β : Type}

theorem Idle.bind {a : Act World α} {f : α → Act World β} (first : Idle a) (rest : ∀ x, Idle (f x)) :
    Idle (a >>= f) := by
  intro w
  rw [Act.ends_bind]
  refine (first w).mono ?_ fun _ _ => id
  intro x t beside
  exact (rest x t).mono (fun _ _ => beside.trans) fun _ _ => beside.trans

theorem idle_pure (x : α) : Idle (pure x : Act World α) := by
  intro w
  rw [Act.ends_pure]
  exact w.beside_refl

theorem idle_writeText (task : FileTask) (p : Path) (text : String) : Idle (writeText task p text) := by
  intro w
  rw [ends_writeText]
  exact ⟨fun _ _ => ⟨rfl, rfl, rfl⟩, fun _ _ => w.beside_refl⟩

end Idle

end World

namespace CompilerEngine

open World (Idle OneMore)

theorem idle_makeAbove (p : Path) : Idle (makeAbove p) := fun w =>
  (ends_makeAbove p w).mono (fun _ _ made => made.1) fun _ _ beside => beside

theorem idle_stageSources (root overlay : Path) (sources : List (Path × SourceText)) :
    Idle (stageSources root overlay sources) := by
  induction sources with
  | nil => exact World.idle_pure ()
  | cons source rest ih =>
    obtain ⟨p, text⟩ := source
    cases text with
    | onDisk =>
      rw [stageSources_onDisk]
      exact ih
    | inMemory text =>
      rw [stageSources_inMemory]
      exact (idle_makeAbove _).bind fun _ => (World.idle_writeText _ _ _).bind fun _ => ih

def configIn (e : CompilerEngine) (staging : Path) (extending : Bool) : Value :=
  Staging.tsconfig e.options extending e.sources.paths (layoutIn e staging) (compiledIn e staging)

structure Starts (e : CompilerEngine) (here : Place) (staging : Path) (before : FileTree) (call : Call) :
    Prop where
  arguments : call.invocation.arguments =
    ["--project", (staging.join "tsconfig.json").text, "--pretty", "false"]
  written : before.write here (staging.join "tsconfig.json")
    (Json.indented 0 (configIn e staging (before.isFile here e.options.tsconfigPath))).toUTF8 =
      .ok call.tree

def Launches (e : CompilerEngine) (w t : World) : Prop :=
  ∃ staging before call, t.calls = w.calls ++ [call] ∧ Starts e w.directory staging before call

theorem Launches.oneMore {e : CompilerEngine} {w t : World} (launches : Launches e w t) : w.OneMore t := by
  obtain ⟨-, -, call, calls, -⟩ := launches
  exact ⟨call, calls⟩

section Settles

variable {e : CompilerEngine} {w : World} {good : Compilation → World → Prop} {bad : Error → World → Prop}

theorem ends_compileIn_of_settle {staging : Path} (unstarted : ∀ error t, w.Beside t → bad error t)
    (settles : ∀ before call v, Starts e w.directory staging before call → v.calls = w.calls ++ [call] →
      v.tree = (w.outcomeOf call).tree → v.directory = w.directory →
        Act.Ends (settle e staging (w.outcomeOf call)) v good bad) :
    Act.Ends (compileIn e staging) w good bad := by
  unfold compileIn
  dsimp only
  rw [Act.ends_bind]
  refine (idle_stageSources _ _ _ w).mono ?_ unstarted
  intro _ t staged
  rw [Act.ends_bind, Act.ends_get, Act.ends_bind, World.ends_writeText]
  refine ⟨fun tree written => ?_, fun error _ => unstarted _ _ staged⟩
  rw [Act.ends_bind, World.ends_note, Act.ends_bind]
  generalize noted : World.addNote _ _ = u
  have before : w.Beside u := noted ▸ staged.trans ⟨rfl, rfl, rfl⟩
  have treeU : u.tree = tree := noted ▸ rfl
  refine (World.ends_run ..).mono ?_ ?_
  · rintro _ v ⟨call, arguments, found, rfl, calls, after, directory, -⟩
    have starts : Starts e w.directory staging t.tree call := by
      refine ⟨arguments, ?_⟩
      rw [found, treeU, ← staged.directory]
      exact written
    rw [before.outcomeOf] at after ⊢
    exact settles t.tree call v starts (before.calls ▸ calls) after (directory.trans before.directory)
  · rintro error _ rfl
    exact unstarted _ _ before

/-- A compilation either runs no program, or runs the compiler once in a directory that is chosen for it, and ends
as that is settled, but for the directory, which is removed. -/
theorem ends_compile_of_chosen (unstarted : ∀ error t, w.Beside t → bad error t)
    (settles : ∀ staging before call v, Chosen e.options.root w staging →
      Starts e w.directory staging before call → v.calls = w.calls ++ [call] →
        v.tree = (w.outcomeOf call).tree → v.directory = w.directory →
          Act.Ends (settle e staging (w.outcomeOf call)) v
            (fun c t => ∀ tree, good c { t with tree := tree })
            fun error t => ∀ tree, bad error { t with tree := tree }) :
    Act.Ends (compile e) w good bad := by
  apply ends_compile_of_staging
  · rintro error _ ⟨log, rfl⟩
    exact unstarted _ _ ⟨rfl, rfl, rfl⟩
  · intro staging u chosen beside _
    have inner : Act.Ends (compileIn e staging) u (fun c t => ∀ tree, good c { t with tree := tree })
        fun error t => ∀ tree, bad error { t with tree := tree } := by
      apply ends_compileIn_of_settle
      · exact fun error t more tree => unstarted _ _ (beside.trans (more.trans ⟨rfl, rfl, rfl⟩))
      · intro before call v starts calls after directory
        rw [beside.directory] at starts directory
        rw [beside.calls] at calls
        rw [beside.outcomeOf] at after ⊢
        exact settles staging before call v chosen starts calls after directory
    exact inner.mono (fun _ _ ended => ended _) fun _ _ ended => ended _

end Settles

/-- How a compilation ends when the compiler has stopped: with what it has printed and written, unless it explains
itself on its error channel alone, or leaves declarations behind that are no text. -/
inductive Verdict (e : CompilerEngine) (staging : Path) (w : World) (call : Call) :
    Except Error Compilation → Prop
  | compiled {c : Compilation} (unexplained : ¬(w.outcomeOf call).Explained)
      (readable : ¬Garbled e staging (w.afterwards call))
      (diagnostics : c.diagnostics = (diagnosed e staging (w.outcomeOf call)).1)
      (outputs : c.outputs.length = e.sources.paths.length) (fresh : c.emitted = false) :
      Verdict e staging w call (.ok c)
  | explained (explained : (w.outcomeOf call).Explained) :
      Verdict e staging w call (.error (e.exitError (w.outcomeOf call)))
  | garbled {error : Error} (unexplained : ¬(w.outcomeOf call).Explained)
      (garbled : Garbled e staging (w.afterwards call)) : Verdict e staging w call (.error error)

def Closes (e : CompilerEngine) (w t : World) (result : Except Error Compilation) : Prop :=
  ∃ staging before call, Chosen e.options.root w staging ∧ Starts e w.directory staging before call ∧
    t.calls = w.calls ++ [call] ∧ Verdict e staging w call result

theorem Closes.launches {e : CompilerEngine} {w t : World} {result : Except Error Compilation}
    (closes : Closes e w t result) : Launches e w t := by
  obtain ⟨staging, before, call, -, starts, calls, -⟩ := closes
  exact ⟨staging, before, call, calls, starts⟩

theorem closes_compile (e : CompilerEngine) (w : World) :
    Act.Ends (compile e) w (fun c t => Closes e w t (.ok c))
      fun error t => t.calls = w.calls ∨ Closes e w t (.error error) := by
  apply ends_compile_of_chosen
  · exact fun _ _ beside => .inl beside.calls
  · intro staging before call v chosen starts calls after directory
    have files := garbled_iff (w := w.afterwards call) after directory e staging
    refine (ends_settle ..).mono ?_ ?_
    · rintro c _ ⟨⟨log, rfl⟩, unexplained, readable, rfl⟩ tree
      rw [files] at readable
      exact ⟨staging, before, call, chosen, starts, calls,
        .compiled unexplained readable rfl (by simp [compiledIn, Sources.paths]) rfl⟩
    · rintro error _ ⟨⟨log, rfl⟩, ended⟩ tree
      rw [files] at ended
      refine .inr ⟨staging, before, call, chosen, starts, calls, ?_⟩
      rcases ended with ⟨explained, rfl⟩ | ⟨unexplained, garbled⟩
      · exact .explained explained
      · exact .garbled unexplained garbled

theorem launches_once_compile (e : CompilerEngine) (w : World) :
    Act.Ends (compile e) w
      (fun c t => c.emitted = false ∧ c.outputs.length = e.sources.paths.length ∧ Launches e w t)
      fun _ t => t.calls = w.calls ∨ Launches e w t := by
  apply (closes_compile e w).mono
  · intro c t closes
    have launches := closes.launches
    obtain ⟨_, _, _, _, _, _, verdict⟩ := closes
    cases verdict with
    | compiled _ _ _ outputs fresh => exact ⟨fresh, outputs, launches⟩
  · exact fun _ _ ended => ended.imp_right Closes.launches

theorem ends_ensureCompiled_calls (e : CompilerEngine) (w : World) :
    Act.Ends ensureCompiled (e, w)
      (fun c t => e.compilation = some c ∧ t = (e, w) ∨ e.compilation = none ∧ c.emitted = false ∧
        c.outputs.length = e.sources.paths.length ∧ t.1 = { e with compilation := some c } ∧
        Launches e w t.2)
      fun _ t => e.compilation = none ∧ t.1 = e ∧ (t.2.calls = w.calls ∨ Launches e w t.2) := by
  cases state : e.compilation with
  | some c => exact (ends_ensureCompiled_of_some state w).mpr (.inl ⟨rfl, rfl⟩)
  | none =>
    rw [ends_ensureCompiled_of_none state]
    refine (launches_once_compile e w).mono ?_ ?_
    · rintro c t ⟨fresh, outputs, launches⟩
      exact .inr ⟨rfl, fresh, outputs, rfl, launches⟩
    · exact fun _ _ calls => ⟨rfl, rfl, calls⟩

end CompilerEngine

end DeclBundle
