import DeclBundle.Proofs.Build.Attempts

namespace DeclBundle

/-- A sink is called for some attempts in turn. In between, records may be put into the log. -/
inductive Sink.Delivers {κ : Type} (sink : Sink κ) : κ × World → List Attempt → κ × World → Prop
  | done (s : κ × World) : Delivers sink s [] s
  | noted {s t : κ × World} {attempts : List Attempt} (r : Record)
      (rest : Delivers sink (s.1, s.2.addNote r) attempts t) : Delivers sink s attempts t
  | written {s t u : κ × World} {p : Path} {text : String} {attempts : List Attempt}
      (run : sink.write p text s = .ok () t) (rest : Delivers sink t attempts u) :
      Delivers sink s (⟨p, text, none⟩ :: attempts) u
  | refused {s t : κ × World} {p : Path} {text : String} {e : Error}
      (run : sink.write p text s = .error e t) : Delivers sink s [⟨p, text, some e⟩] t

namespace Sink

variable {κ : Type} {sink : Sink κ} {s t u : κ × World} {left right : List Attempt}

theorem Delivers.append (first : sink.Delivers s left t) (written : Attempt.AllWritten left)
    (second : sink.Delivers t right u) : sink.Delivers s (left ++ right) u := by
  induction first with
  | done => exact second
  | noted r _ ih => exact .noted r (ih written second)
  | written run _ ih =>
    exact .written run (ih (fun a member => written a (List.mem_cons_of_mem _ member)) second)
  | refused run => cases written _ List.mem_cons_self

theorem Delivers.noted_last (delivers : sink.Delivers s left t) (written : Attempt.AllWritten left)
    (r : Record) : sink.Delivers s left (t.1, t.2.addNote r) := by
  have last : sink.Delivers t [] (t.1, t.2.addNote r) := .noted r (.done _)
  have whole := delivers.append written last
  rwa [List.append_nil] at whole

theorem Delivers.of_noted {k : κ} {v w : World} (delivers : sink.Delivers (k, v) left t)
    (noted : w.Noted v) : sink.Delivers (k, w) left t := by
  rcases noted with rfl | ⟨record, rfl⟩
  · exact delivers
  · exact .noted record delivers

theorem Delivers.of_traced {κ : Type} {sink : Sink κ} {s t : (List Attempt × κ) × World}
    {attempts : List Attempt} (delivers : sink.traced.Delivers s attempts t) :
    t.1.1 = s.1.1 ++ attempts ∧ sink.Delivers (s.1.2, s.2) attempts (t.1.2, t.2) := by
  induction delivers with
  | done s => exact ⟨(List.append_nil _).symm, .done _⟩
  | noted r _ ih => exact ⟨ih.1, .noted r ih.2⟩
  | @written s t u p text attempts run _ ih =>
    obtain ⟨all, delivers⟩ := ih
    simp only [traced] at run
    split at run
    · rename_i inner
      cases run
      exact ⟨by rw [all, List.append_assoc]; rfl, .written inner delivers⟩
    · cases run
  | @refused s t p text e run =>
    simp only [traced] at run
    split at run
    · cases run
    · rename_i inner
      cases run
      exact ⟨rfl, .refused inner⟩

theorem Delivers.of_none {attempts : List Attempt} (delivers : sink.Delivers s attempts t)
    (none : attempts = []) : t.1 = s.1 ∧ s.2.Logs t.2 := by
  induction delivers with
  | done s => exact ⟨rfl, s.2.logs_refl⟩
  | @noted s _ _ r _ ih =>
    obtain ⟨kept, logs⟩ := ih none
    exact ⟨kept, (s.2.logs_addNote r).trans logs⟩
  | written => cases none
  | refused => cases none

theorem Delivers.of_single {p : Path} {text : String} {failure : Option Error}
    (delivers : sink.Delivers s [Attempt.mk p text failure] t) : ∃ v, s.2.Logs v ∧
      ((failure = none ∧ ∃ u, sink.write p text (s.1, v) = .ok () u ∧ t.1 = u.1 ∧ u.2.Logs t.2) ∨
        ∃ e, failure = some e ∧ sink.write p text (s.1, v) = .error e t) := by
  generalize single : [Attempt.mk p text failure] = attempts at delivers
  induction delivers with
  | done => cases single
  | @noted s _ _ r _ ih =>
    obtain ⟨v, logs, run⟩ := ih single
    exact ⟨v, (s.2.logs_addNote r).trans logs, run⟩
  | @written s _ _ _ _ _ run rest =>
    cases single
    obtain ⟨kept, logs⟩ := rest.of_none rfl
    exact ⟨s.2, s.2.logs_refl, .inl ⟨rfl, _, run, kept, logs⟩⟩
  | @refused s _ _ _ _ run =>
    cases single
    exact ⟨s.2, s.2.logs_refl, .inr ⟨_, rfl, run⟩⟩

end Sink

namespace Emission

variable {ε κ : Type} (engine : Engine ε) (sink : Sink κ) (r : Rerooting) (directory : Path)

theorem allWritten_attempts (files : List EmittedFile) :
    Attempt.AllWritten (attempts r directory files) := by
  intro a member
  obtain ⟨f, -, rfl⟩ := List.mem_map.mp member
  rfl

def Stopped (files : List EmittedFile) (s : κ × World) (e : Error) (t : κ × World) : Prop :=
  ∃ before f after, files = before ++ f :: after ∧ sink.Delivers s
    (attempts r directory before ++ [⟨r.target directory f.path, r.text f.text, some e⟩]) t

variable {sink r directory}

theorem Stopped.of_noted {k : κ} {v w : World} {t : κ × World} {files : List EmittedFile} {e : Error}
    (stopped : Stopped sink r directory files (k, v) e t) (noted : w.Noted v) :
    Stopped sink r directory files (k, w) e t := by
  obtain ⟨before, f, after, whole, delivers⟩ := stopped
  exact ⟨before, f, after, whole, delivers.of_noted noted⟩

theorem Stopped.append {s t : κ × World} {files : List EmittedFile} {e : Error}
    (stopped : Stopped sink r directory files s e t) (more : List EmittedFile) :
    Stopped sink r directory (files ++ more) s e t := by
  obtain ⟨before, f, after, rfl, delivers⟩ := stopped
  exact ⟨before, f, after ++ more, by simp, delivers⟩

theorem Stopped.after {s t u : κ × World} {files more : List EmittedFile} {e : Error}
    (delivers : sink.Delivers s (attempts r directory files) t)
    (stopped : Stopped sink r directory more t e u) : Stopped sink r directory (files ++ more) s e u := by
  obtain ⟨before, f, after, rfl, last⟩ := stopped
  refine ⟨files ++ before, f, after, by simp, ?_⟩
  have whole := delivers.append (allWritten_attempts r directory files) last
  rwa [← List.append_assoc, attempts, attempts, ← List.map_append] at whole

variable (sink r directory)

theorem ends_write_delivers (f : EmittedFile) (e : ε) (k : κ) (w : World) :
    Act.Ends (onSink (sink.write (r.target directory f.path) (r.text f.text))) (e, k, w)
      (fun _ t => t.1 = e ∧ sink.Delivers (k, w) (attempts r directory [f]) t.2)
      fun error t => t.1 = e ∧ Stopped sink r directory [f] (k, w) error t.2 := by
  rw [onSink, Act.ends_focus]
  apply Act.Ends.of_runs
  · intro _ t run
    exact ⟨rfl, .written run (.done t)⟩
  · intro error t run
    exact ⟨rfl, [], f, [], rfl, .refused run⟩

theorem ends_writeFiles_delivers (files : List EmittedFile) (e : ε) (k : κ) (w : World) :
    Act.Ends (writeFiles sink r directory files) (e, k, w)
      (fun written t => t.1 = e ∧ written = targets r directory files ∧
        sink.Delivers (k, w) (attempts r directory files) t.2)
      fun error t => t.1 = e ∧ Stopped sink r directory files (k, w) error t.2 := by
  induction files generalizing k w with
  | nil =>
    simp only [writeFiles, Act.ends_pure]
    exact ⟨trivial, rfl, .done _⟩
  | cons f rest ih =>
    simp only [writeFiles, note, Act.ends_bind, Act.ends_second, World.ends_note, Act.ends_pure]
    refine (ends_write_delivers sink r directory f e k _).mono ?_ ?_
    · rintro _ ⟨_, k', w'⟩ ⟨rfl, delivers⟩
      refine (ih k' w').mono ?_ ?_
      · rintro _ t ⟨same, rfl, more⟩
        exact ⟨same, rfl, .noted _ (delivers.append (allWritten_attempts r directory [f]) more)⟩
      · rintro error t ⟨same, stopped⟩
        exact ⟨same, (Stopped.after delivers stopped).of_noted (.inr ⟨_, rfl⟩)⟩
    · rintro error t ⟨same, stopped⟩
      exact ⟨same, (stopped.append rest).of_noted (.inr ⟨_, rfl⟩)⟩

theorem ends_writeModules_delivers (handles : List Handle) (e : ε)
    (known : ∀ h ∈ handles, ∃ files, engine.emitted e h.id = .ok files) (k : κ) (w : World) :
    Act.Ends (writeModules engine sink r directory handles) (e, k, w)
      (fun written t => t.1 = e ∧ written = targets r directory (handles.flatMap (filesOf engine e)) ∧
        sink.Delivers (k, w) (attempts r directory (handles.flatMap (filesOf engine e))) t.2)
      fun error t => t.1 = e ∧
        Stopped sink r directory (handles.flatMap (filesOf engine e)) (k, w) error t.2 := by
  induction handles generalizing k w with
  | nil =>
    simp only [writeModules, Act.ends_pure]
    exact ⟨trivial, rfl, .done _⟩
  | cons h rest ih =>
    obtain ⟨files, found⟩ := known h List.mem_cons_self
    have own : filesOf engine e h = files := by
      unfold filesOf
      rw [found]
      rfl
    have known' : ∀ g ∈ rest, ∃ files, engine.emitted e g.id = .ok files := fun g member =>
      known g (List.mem_cons_of_mem _ member)
    rw [List.flatMap_cons, own]
    refine ends_writeModules_cons engine sink r directory h rest _ ?_ ?_
    · intro files' v found' noted
      obtain rfl : files = files' := Except.ok.inj (found.symm.trans found')
      refine (ends_writeFiles_delivers sink r directory files e k v).mono ?_ ?_
      · rintro _ ⟨_, k', w'⟩ ⟨rfl, rfl, delivers⟩
        refine (ih known' k' w').mono ?_ ?_
        · rintro _ t ⟨same, rfl, more⟩
          refine ⟨same, (List.map_append ..).symm, ?_⟩
          rw [attempts, List.map_append]
          exact (delivers.append (allWritten_attempts r directory files) more).of_noted noted
        · rintro error t ⟨same, stopped⟩
          exact ⟨same, (Stopped.after delivers stopped).of_noted noted⟩
      · rintro error t ⟨same, stopped⟩
        exact ⟨same, (stopped.append _).of_noted noted⟩
    · intro _ failed
      cases found.symm.trans failed

theorem ends_finish (registry : Registry) (count : Nat) (e : ε)
    (known : ∀ h ∈ registry.handles, ∃ files, engine.emitted e h.id = .ok files) (k : κ) (w : World) :
    Act.Ends (finish engine sink r directory registry count) (e, k, w)
      (fun summary t => t.1 = e ∧
        summary = ⟨registry.size, count,
          targets r directory (registry.handles.flatMap (filesOf engine e))⟩ ∧
        sink.Delivers (k, w) (attempts r directory (registry.handles.flatMap (filesOf engine e))) t.2)
      fun error t => t.1 = e ∧
        Stopped sink r directory (registry.handles.flatMap (filesOf engine e)) (k, w) error t.2 := by
  unfold finish
  simp only [note, Act.ends_bind, Act.ends_second, World.ends_note, Act.ends_pure]
  refine (ends_writeModules_delivers engine sink r directory registry.handles e known k w).mono ?_
    fun _ _ => id
  rintro _ t ⟨same, rfl, delivers⟩
  exact ⟨same, rfl, delivers.noted_last (allWritten_attempts r directory _) _⟩

end Emission

namespace Build

variable {ε κ : Type} (engine : Engine ε) (sink : Sink κ) (inputs : List Path) (output : Output)

def rerooting (p : Plugin ε) : Rerooting := ⟨p.config.root, p.config.cleanNames⟩

def prepare : Act (Plugin ε × World) (Path × Nat) := do
  present engine inputs
  let (p, _) ← get
  Plugin.onEngine (Emission.prepare engine (rerooting p) p.registry output)

def finish (directory : Path) (count : Nat) : Act (Plugin ε × κ × World) Summary := do
  let (p, _) ← get
  (Emission.finish engine sink (rerooting p) directory p.registry count).focus
    (fun (p, k, w) => (p.engine, k, w)) (fun (p, _) (e, k, w) => ({ p with engine := e }, k, w))

/-- The sink has no part in a build until all is prepared. -/
theorem run_eq : run engine sink inputs output = (do
    let (directory, count) ← (prepare engine inputs output).focus
      (fun (p, _, w) => (p, w)) (fun (_, k, _) (p, w) => (p, k, w))
    finish engine sink directory count) := by
  funext s
  obtain ⟨p, k, w⟩ := s
  simp only [run, prepare, finish, Plugin.generate, Emission.emitDeclarations_eq, Bind.bind,
    EStateM.bind, get, getThe, MonadStateOf.get, EStateM.get, Act.focus]
  cases present engine inputs (p, w) with
  | error e t => rfl
  | ok _ t =>
    simp only [Plugin.onEngine, Emission.onEngine, Act.focus, rerooting]
    cases Emission.prepare engine ⟨t.1.config.root, t.1.config.cleanNames⟩ t.1.registry output
      (t.1.engine, t.2) with
    | error e u => rfl
    | ok x u => rfl

theorem ends_prepare_iff {p : Plugin ε} {w : World} {good : Path × Nat → Plugin ε × World → Prop}
    {bad : Error → Plugin ε × World → Prop} :
    Act.Ends (prepare engine inputs output) (p, w) good bad ↔
      Act.Ends (present engine inputs) (p, w)
        (fun _ t => Act.Ends (Emission.prepare engine (rerooting t.1) t.1.registry output) (t.1.engine, t.2)
          (fun x u => good x ({ t.1 with engine := u.1 }, u.2))
          fun error u => bad error ({ t.1 with engine := u.1 }, u.2))
        bad := by
  unfold prepare
  simp only [Plugin.onEngine, Act.ends_bind, Act.ends_get, Act.ends_focus]

def outgoing (p : Plugin ε) : List EmittedFile :=
  p.registry.handles.flatMap (Emission.filesOf engine p.engine)

theorem ends_finish {p : Plugin ε}
    (known : ∀ h ∈ p.registry.handles, ∃ files, engine.emitted p.engine h.id = .ok files)
    (directory : Path) (count : Nat) (k : κ) (w : World) :
    Act.Ends (finish engine sink directory count) (p, k, w)
      (fun summary t => t.1 = p ∧
        summary = ⟨p.registry.size, count,
          Emission.targets (rerooting p) directory (outgoing engine p)⟩ ∧
        sink.Delivers (k, w) (Emission.attempts (rerooting p) directory (outgoing engine p)) t.2)
      fun error t => t.1 = p ∧
        Emission.Stopped sink (rerooting p) directory (outgoing engine p) (k, w) error t.2 := by
  unfold finish
  simp only [Act.ends_bind, Act.ends_get, Act.ends_focus]
  refine (Emission.ends_finish engine sink (rerooting p) directory p.registry count p.engine known k
    w).mono ?_ ?_
  · rintro summary ⟨_, t⟩ ⟨rfl, whole, delivers⟩
    exact ⟨rfl, whole, delivers⟩
  · rintro error ⟨_, t⟩ ⟨rfl, stopped⟩
    exact ⟨rfl, stopped⟩

theorem known_of_prepare {p : Plugin CompilerEngine} (reached : p.Reached CompilerEngine.engine) (w : World) :
    Act.Ends (prepare CompilerEngine.engine inputs output) (p, w)
      (fun _ t => ∀ h ∈ t.1.registry.handles, ∃ files, CompilerEngine.engine.emitted t.1.engine h.id = .ok files)
      fun _ _ => True := by
  rw [ends_prepare_iff]
  refine (ends_present reached inputs w).mono ?_ fun _ _ _ => trivial
  intro _ t reached'
  have tracked := reached'.tracked CompilerEngine.tracks
  refine Emission.ends_prepare (fun _ _ => trivial) fun directory _ v _ => ?_
  refine .of_runs (fun ds u surveyed v' _ => ?_) fun _ _ _ => trivial
  obtain ⟨sound, kept⟩ := (CompilerEngine.tracks.diagnostics tracked.inv v).ok surveyed
  exact .of_runs (fun _ _ run => emitted_of_reached reached' sound kept run) fun _ _ _ => trivial

end Build

end DeclBundle
