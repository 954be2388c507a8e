import DeclBundle.Build.Run
import DeclBundle.Proofs.Engine.Basic

namespace DeclBundle

namespace Plugin

variable {ε : Type} {engine : Engine ε}

/-- The plugins that a build goes through, in worlds that may change in between: what is observed may be
refused, and diagnostics may be asked for at any time. -/
inductive Reached (engine : Engine ε) : Plugin ε → Prop
  | created {config : Config} {w w' : World} {p : Plugin ε} (run : create engine config w = .ok p w') :
      Reached engine p
  | transformed {p : Plugin ε} (reached : Reached engine p) (code id : String) (w : World) :
      Reached engine ((transform engine code id).outcome (p, w)).2.1
  | surveyed {p : Plugin ε} (reached : Reached engine p) (w : World) :
      Reached engine ((onEngine engine.diagnostics).outcome (p, w)).2.1

structure Admits (p : Plugin ε) (code id : String) (a : Admission) : Prop where
  full : ¬code.isEmpty
  accepted : p.filter.accepts id
  classified : classify id p.config.root = some a

theorem ends_transform_cases {p : Plugin ε} {code id : String} {w : World}
    {good : Option Handle → Plugin ε × World → Prop} {bad : Error → Plugin ε × World → Prop}
    (skipped : (∀ a, ¬p.Admits code id a) → ∀ t, w.Logs t → good none (p, t))
    (enrolled : ∀ a, p.Admits code id a → ∀ t, w.Logs t →
      Act.Ends (enroll engine code id a) (p, t) (fun h => good (some h)) bad) :
    Act.Ends (transform engine code id) (p, w) good bad := by
  unfold transform
  split
  · rename_i empty
    simp only [note, Act.ends_bind, Act.ends_second, World.ends_note, Act.ends_pure]
    exact skipped (fun _ admits => admits.full empty) _ (w.logs_addNote _)
  · rename_i full
    simp only [Act.ends_bind, Act.ends_get, Act.ends_second, World.ends_noteAll]
    have noted : w.Logs { w with log := w.log ++ p.filter.notes id } := ⟨_, rfl⟩
    split
    · rename_i refused
      simp only [note, Act.ends_bind, Act.ends_second, World.ends_note, Act.ends_pure]
      refine skipped (fun _ admits => ?_) _ (noted.trans (World.logs_addNote _ _))
      simp [admits.accepted] at refused
    · rename_i accepted
      split
      · rename_i irrelevant
        simp only [note, Act.ends_bind, Act.ends_second, World.ends_note, Act.ends_pure]
        refine skipped (fun _ admits => ?_) _ (noted.trans (World.logs_addNote _ _))
        cases irrelevant.symm.trans admits.classified
      · rename_i a classified
        simp only [Act.ends_bind, Act.ends_pure]
        exact enrolled a ⟨full, by simpa using accepted, classified⟩ _ noted

def registration (engine : Engine ε) (code : String) : Admission → Act (ε × World) SourceId
  | .script component lang => engine.addText (Admission.script component lang).logicalPath code
  | .standalone p => engine.addFile p

theorem ends_enroll_cases {p : Plugin ε} {code id : String} {a : Admission} {w : World}
    {good : Handle → Plugin ε × World → Prop} {bad : Error → Plugin ε × World → Prop}
    (registered : ∀ t, w.Logs t → Act.Ends (registration engine code a) (p.engine, t)
      (fun source u => ∀ v, u.2.Logs v → good ⟨source, a.logicalPath, a.kind⟩
        ({ p with engine := u.1, registry := p.registry.push ⟨source, a.logicalPath, a.kind⟩ }, v))
      fun error u => bad error ({ p with engine := u.1 }, u.2)) :
    Act.Ends (enroll engine code id a) (p, w) good bad := by
  cases a with
  | script component lang =>
    simp only [enroll, registerSource, note, onEngine, Act.ends_bind, Act.ends_second, World.ends_note,
      World.ends_noteAll, Act.ends_focus, Act.ends_get, Act.ends_modify, Act.ends_pure]
    refine (registered _ (w.logs_addNote _)).mono ?_ fun _ _ ended => ended
    exact fun source u ended => ended _ ((u.2.logs_addNote _).trans ⟨_, rfl⟩)
  | standalone path =>
    simp only [enroll, registerSource, note, onEngine, Act.ends_bind, Act.ends_second, World.ends_note,
      World.ends_noteAll, Act.ends_focus, Act.ends_get, Act.ends_modify, Act.ends_pure]
    refine (registered w w.logs_refl).mono ?_ fun _ _ ended => ended
    exact fun source u ended => ended _ ((u.2.logs_addNote _).trans ⟨_, rfl⟩)

structure Tracked (Inv : ε → Prop) (Known : ε → SourceId → Path → Prop) (p : Plugin ε) : Prop where
  inv : Inv p.engine
  known : ∀ h ∈ p.registry.handles, h.logicalPath.IsModule ∧ Known p.engine h.id h.logicalPath

variable {Inv : ε → Prop} {Known : ε → SourceId → Path → Prop}

theorem Tracked.of_engine {p : Plugin ε} (tracked : p.Tracked Inv Known) {e : ε}
    (kept : Inv e ∧ ∀ i q, Known p.engine i q → Known e i q) :
    ({ p with engine := e } : Plugin ε).Tracked Inv Known :=
  ⟨kept.1, fun h member => ⟨(tracked.known h member).1, kept.2 _ _ (tracked.known h member).2⟩⟩

theorem Tracked.push {p : Plugin ε} (tracked : p.Tracked Inv Known) {h : Handle}
    (module : h.logicalPath.IsModule) (known : Known p.engine h.id h.logicalPath) :
    ({ p with registry := p.registry.push h } : Plugin ε).Tracked Inv Known := by
  refine ⟨tracked.inv, ?_⟩
  intro h' member
  rcases List.mem_append.mp member with old | new
  · exact tracked.known h' old
  · rw [List.mem_singleton.mp new]
    exact ⟨module, known⟩

theorem ends_enroll (tracks : engine.Tracks Inv Known) {p : Plugin ε}
    (tracked : p.Tracked Inv Known) (code id : String) {a : Admission}
    (module : a.logicalPath.IsModule) (w : World) :
    Act.Ends (enroll engine code id a) (p, w) (fun _ t => t.1.Tracked Inv Known)
      fun _ t => t.1.Tracked Inv Known := by
  apply ends_enroll_cases
  intro t _
  have registered : Act.Ends (registration engine code a) (p.engine, t)
      (fun source u => Inv u.1 ∧ Known u.1 source a.logicalPath ∧ ∀ i q, Known p.engine i q → Known u.1 i q)
      fun _ u => Inv u.1 ∧ ∀ i q, Known p.engine i q → Known u.1 i q := by
    cases a with
    | script component lang => exact tracks.addText tracked.inv module code t
    | standalone path => exact tracks.addFile tracked.inv module t
  refine registered.mono ?_ fun _ _ => tracked.of_engine
  rintro source u ⟨inv, known, kept⟩ v -
  exact (tracked.of_engine ⟨inv, kept⟩).push module known

theorem ends_transform (tracks : engine.Tracks Inv Known) {p : Plugin ε}
    (tracked : p.Tracked Inv Known) (code id : String) (w : World) :
    Act.Ends (transform engine code id) (p, w) (fun _ t => t.1.Tracked Inv Known)
      fun _ t => t.1.Tracked Inv Known := by
  apply ends_transform_cases
  · exact fun _ _ _ => tracked
  · exact fun a admits t _ => ends_enroll tracks tracked code id (isModule_of_classify admits.classified) t

theorem ends_create (tracks : engine.Tracks Inv Known) (config : Config) (w : World) :
    Act.Ends (create engine config) w (fun p _ => p.Tracked Inv Known) fun _ _ => True := by
  unfold create
  refine .after fun filter _ => .after fun _ _ => .after fun _ w => ?_
  simp only [Act.ends_bind, Act.ends_mapError, Act.ends_pure]
  refine (tracks.create config.projectOptions w).mono ?_ fun _ _ _ => trivial
  intro e t inv
  exact ⟨inv, by simp [Registry.empty]⟩

theorem Reached.tracked (tracks : engine.Tracks Inv Known) {p : Plugin ε}
    (reached : Reached engine p) : p.Tracked Inv Known := by
  induction reached with
  | created run => exact (ends_create tracks _ _).ok run
  | transformed reached code id w ih => exact (ends_transform tracks ih code id w).outcome
  | @surveyed p reached w ih =>
    have ends : Act.Ends (onEngine engine.diagnostics) (p, w) (fun _ t => t.1.Tracked Inv Known)
        fun _ t => t.1.Tracked Inv Known := by
      simp only [onEngine, Act.ends_focus]
      exact (tracks.diagnostics ih.inv w).mono (fun _ _ => ih.of_engine) fun _ _ => ih.of_engine
    exact ends.outcome

end Plugin

namespace Build

open Plugin (Reached)

variable {ε : Type} {engine : Engine ε}

theorem ends_transform {p : Plugin ε} (reached : Reached engine p) (code id : String) (w : World) :
    Act.Ends (Plugin.transform engine code id) (p, w) (fun _ t => Reached engine t.1)
      fun _ t => Reached engine t.1 := by
  have after := reached.transformed code id w
  unfold Act.outcome at after
  apply Act.Ends.of_runs
  all_goals
    intro _ _ run
    rw [run] at after
    exact after

theorem ends_transformFile {p : Plugin ε} (reached : Reached engine p) (file : Path) (w : World) :
    Act.Ends (transformFile engine file) (p, w) (fun _ t => Reached engine t.1)
      fun _ t => Reached engine t.1 := by
  simp only [transformFile, Act.ends_bind, Act.ends_second, World.ends_readText]
  refine ⟨fun source _ => ?_, fun _ _ => reached⟩
  split
  · simpa using reached
  · simp only [Act.ends_bind, Act.ends_pure]
    exact ends_transform reached _ _ w

theorem ends_transformAll {p : Plugin ε} (reached : Reached engine p) (files : List Path)
    (w : World) :
    Act.Ends (transformAll engine files) (p, w) (fun _ t => Reached engine t.1)
      fun _ t => Reached engine t.1 := by
  induction files generalizing p w with
  | nil => simpa [transformAll] using reached
  | cons file rest ih =>
    simp only [transformAll, Act.ends_bind, Act.ends_pure]
    refine (ends_transformFile reached file w).mono ?_ fun _ _ kept => kept
    rintro _ ⟨p', w'⟩ reached'
    exact ih reached' w'

theorem ends_present {p : Plugin ε} (reached : Reached engine p) (inputs : List Path) (w : World) :
    Act.Ends (present engine inputs) (p, w) (fun _ t => Reached engine t.1)
      fun _ t => Reached engine t.1 := by
  simp only [present, Inputs.collect, Act.ends_bind, Act.ends_get, Act.ends_second,
    Act.ends_ofExcept, World.ends_note, Act.ends_pure]
  refine ⟨fun files _ => ?_, fun _ _ => reached⟩
  exact (ends_transformAll reached _ _).mono (fun _ _ kept => kept) fun _ _ kept => kept

end Build

end DeclBundle
