import DeclBundle.Proofs.Build.Observation
import DeclBundle.Proofs.Build.Rerooting
import DeclBundle.Proofs.Engine.Registration
import DeclBundle.Proofs.Engine.Sound
import DeclBundle.Proofs.Module.Canonical

namespace DeclBundle

structure Engine.Holds {ε : Type} (engine : Engine ε) (Inv : Config → ε → Prop) : Prop where
  create (c : Config) (w : World) :
    Act.Ends (engine.create c.projectOptions) w (fun e _ => Inv c e) fun _ _ => True
  addText {c : Config} {e : ε} (inv : Inv c e) {id : String} {a : Admission}
    (admitted : classify id c.root = some a) (text : String) (w : World) :
    Act.Ends (engine.addText a.logicalPath text) (e, w) (fun _ t => Inv c t.1) fun _ t => Inv c t.1
  addFile {c : Config} {e : ε} (inv : Inv c e) {id : String} {a : Admission}
    (admitted : classify id c.root = some a) (w : World) :
    Act.Ends (engine.addFile a.logicalPath) (e, w) (fun _ t => Inv c t.1) fun _ t => Inv c t.1
  diagnostics {c : Config} {e : ε} (inv : Inv c e) (w : World) :
    Act.Ends engine.diagnostics (e, w) (fun _ t => Inv c t.1) fun _ t => Inv c t.1

namespace Plugin

variable {ε : Type} {engine : Engine ε} {Inv : Config → ε → Prop}

structure Held (Inv : Config → ε → Prop) (p : Plugin ε) : Prop where
  filter : p.config.filter = .ok p.filter
  inv : Inv p.config p.engine

theorem Held.of_engine {p : Plugin ε} (held : p.Held Inv) {e : ε} (inv : Inv p.config e) :
    ({ p with engine := e } : Plugin ε).Held Inv := ⟨held.filter, inv⟩

theorem held_enroll (holds : engine.Holds Inv) {p : Plugin ε} (held : p.Held Inv) (code id : String)
    {a : Admission} {id' : String} (admitted : classify id' p.config.root = some a) (w : World) :
    Act.Ends (enroll engine code id a) (p, w) (fun _ t => t.1.Held Inv) fun _ t => t.1.Held Inv := by
  apply ends_enroll_cases
  intro t _
  have registered : Act.Ends (registration engine code a) (p.engine, t) (fun _ u => Inv p.config u.1)
      fun _ u => Inv p.config u.1 := by
    cases a with
    | script component lang => exact holds.addText held.inv admitted code t
    | standalone path => exact holds.addFile held.inv admitted t
  exact registered.mono (fun _ _ inv _ _ => ⟨held.filter, inv⟩) fun _ _ => held.of_engine

theorem held_transform (holds : engine.Holds Inv) {p : Plugin ε} (held : p.Held Inv)
    (code id : String) (w : World) :
    Act.Ends (transform engine code id) (p, w) (fun _ t => t.1.Held Inv) fun _ t => t.1.Held Inv := by
  apply ends_transform_cases
  · exact fun _ _ _ => held
  · exact fun a admits t _ => held_enroll holds held code id admits.classified t

theorem held_create (holds : engine.Holds Inv) (config : Config) (w : World) :
    Act.Ends (create engine config) w (fun p _ => p.Held Inv) fun _ _ => True := by
  unfold create
  rw [Act.ends_bind, Act.ends_ofExcept]
  refine ⟨fun filter found => ?_, fun _ _ => trivial⟩
  refine .after fun _ _ => .after fun _ w => ?_
  simp only [Act.ends_bind, Act.ends_mapError, Act.ends_pure]
  exact (holds.create config w).mono (fun _ _ inv => ⟨found, inv⟩) fun _ _ _ => trivial

theorem Reached.held (holds : engine.Holds Inv) {p : Plugin ε} (reached : p.Reached engine) :
    p.Held Inv := by
  induction reached with
  | created run => exact (held_create holds _ _).ok run
  | transformed _ code id w ih => exact (held_transform holds ih code id w).outcome
  | @surveyed p _ w ih =>
    have ends : Act.Ends (onEngine engine.diagnostics) (p, w) (fun _ t => t.1.Held Inv)
        fun _ t => t.1.Held Inv := by
      simp only [onEngine, Act.ends_focus]
      exact (holds.diagnostics ih.inv w).mono (fun _ _ => ih.of_engine) fun _ _ => ih.of_engine
    exact ends.outcome

end Plugin

theorem Path.isRooted_append {p : Path} (rooted : p.isRooted) (s : String) :
    (⟨p.text ++ s⟩ : Path).isRooted := by
  simp only [isRooted, decide_eq_true_eq] at rooted ⊢
  rw [String.toList_append, List.head?_append, rooted]
  rfl

theorem isNormal_of_classify {id : String} {root : Path} (rooted : root.isRooted) {a : Admission}
    (admitted : classify id root = some a) : a.logicalPath.IsNormal := by
  have canonical := isCanonical_of_classify admitted
  refine ⟨?_, by rw [canonical]; exact Path.same_refl _⟩
  rcases classify_cases admitted with ⟨lang, rfl⟩ | ⟨-, rfl⟩
  · exact Path.isRooted_append (Path.isRooted_append (Path.isRooted_resolve _ rooted) ".") _
  · rw [logicalPath_standalone]
    exact Path.isRooted_resolve _ rooted

namespace CompilerEngine

/-- The options are those of the configuration, and below an absolute root all sources are normal. -/
structure Configured (c : Config) (e : CompilerEngine) : Prop where
  options : e.options = c.projectOptions
  normal : c.root.isRooted → ∀ p ∈ e.sources.paths, p.IsNormal

variable {c : Config} {e : CompilerEngine}

theorem Configured.enter (configured : Configured c e) {id : String} {a : Admission}
    (admitted : classify id c.root = some a) (text : SourceText) :
    Configured c (e.enter a.logicalPath text) where
  options := configured.options
  normal rooted :=
    Sources.forall_paths_insert (configured.normal rooted) (isNormal_of_classify rooted admitted) text

theorem holds : engine.Holds Configured where
  create c w := by
    simp only [engine, Act.ends_bind, Act.ends_get, Act.ends_pure]
    exact ⟨rfl, by simp [withCommand, Sources.paths, Sources.empty]⟩
  addText configured _ _ admitted text w := by
    apply (ends_register ..).mono
    · rintro _ ⟨e, t⟩ ⟨-, rfl⟩
      exact configured.enter admitted _
    · rintro _ ⟨e, t⟩ ⟨-, -, rfl⟩
      exact configured.enter admitted _
  addFile configured _ _ admitted w := by
    refine (ends_addFile ..).mono ?_ ?_
    · rintro _ ⟨e, t⟩ ⟨-, rfl⟩
      exact configured.enter admitted _
    · rintro _ ⟨e, t⟩ (⟨same, -⟩ | ⟨-, -, rfl⟩)
      · cases same
        exact configured
      · exact configured.enter admitted _
  diagnostics configured w := by
    simp only [engine, Act.ends_bind, Act.ends_pure]
    refine (ends_ensureCompiled_same ..).mono ?_ ?_
    · rintro _ t ⟨options, sources⟩
      exact ⟨options.trans configured.options, sources ▸ configured.normal⟩
    · rintro _ t ⟨options, sources⟩
      exact ⟨options.trans configured.options, sources ▸ configured.normal⟩

end CompilerEngine

end DeclBundle
