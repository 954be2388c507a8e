import DeclBundle.Proofs.Build.Emission
import DeclBundle.Proofs.Build.Inputs
import DeclBundle.Proofs.Build.Observation
import DeclBundle.Proofs.Engine.Sound
import Mathlib

namespace DeclBundle

structure Attempt where
  path : Path
  text : String
  failure : Option Error

def Sink.traced {κ : Type} (sink : Sink κ) : Sink (List Attempt × κ) where
  write p text := fun ((attempts, k), w) =>
    match sink.write p text (k, w) with
    | .ok () (k, w) => .ok () ((attempts ++ [⟨p, text, none⟩], k), w)
    | .error e (k, w) => .error e ((attempts ++ [⟨p, text, some e⟩], k), w)

namespace Attempt

def AllWritten (attempts : List Attempt) : Prop := ∀ a ∈ attempts, a.failure = none

/-- All was written but for the last call, which failed with the error. -/
def LastFailed (attempts : List Attempt) (e : Error) : Prop :=
  ∃ before last, attempts = before ++ [last] ∧ AllWritten before ∧ last.failure = some e

theorem AllWritten.append {left right : List Attempt} (first : AllWritten left)
    (second : AllWritten right) : AllWritten (left ++ right) := by
  intro a member
  rcases List.mem_append.mp member with member | member
  · exact first a member
  · exact second a member

theorem LastFailed.append {left right : List Attempt} {e : Error} (first : AllWritten left)
    (second : LastFailed right e) : LastFailed (left ++ right) e := by
  obtain ⟨before, last, rfl, written, failure⟩ := second
  exact ⟨left ++ before, last, by simp, first.append written, failure⟩

end Attempt

namespace Emission

variable {ε κ α β : Type}

/-- From `s`, the action `a` does what `b` does, and remembers attempts that fulfil `good` if it succeeds,
or `bad` if it fails. -/
def Traces (a : Act (State ε (List Attempt × κ)) α) (b : Act (State ε κ) α) (s : State ε κ)
    (good : List Attempt → Prop) (bad : List Attempt → Error → Prop) : Prop :=
  ∀ before, Act.Ends b s
    (fun x t => ∃ done, good done ∧
      a (s.1, (before, s.2.1), s.2.2) = .ok x (t.1, (before ++ done, t.2.1), t.2.2))
    (fun e t => ∃ done, bad done e ∧
      a (s.1, (before, s.2.1), s.2.2) = .error e (t.1, (before ++ done, t.2.1), t.2.2))

variable {a : Act (State ε (List Attempt × κ)) α} {b : Act (State ε κ) α} {s : State ε κ}
  {good : List Attempt → Prop} {bad : List Attempt → Error → Prop}

theorem traces_pure (x : α) (start : good []) :
    Traces (pure x) (pure x : Act (State ε κ) α) s good bad := by
  intro before
  rw [Act.ends_pure]
  exact ⟨[], start, by simp [pure, EStateM.pure]⟩

theorem Traces.bind {f : α → Act (State ε (List Attempt × κ)) β} {g : α → Act (State ε κ) β}
    {good' : List Attempt → Prop} {bad' : List Attempt → Error → Prop}
    (first : Traces a b s good bad)
    (second : ∀ x t, b s = .ok x t → Traces (f x) (g x) t
      (fun done => ∀ before, good before → good' (before ++ done))
      fun done e => ∀ before, good before → bad' (before ++ done) e)
    (stop : ∀ done e, bad done e → bad' done e) :
    Traces (a >>= f) (b >>= g) s good' bad' := by
  intro before
  rw [Act.ends_bind]
  apply Act.Ends.of_runs
  · intro x t run
    obtain ⟨done, well, trace⟩ := (first before).ok run
    refine (second x t run (before ++ done)).mono ?_ ?_
    · rintro y u ⟨more, also, further⟩
      exact ⟨done ++ more, also done well, by
        simp only [Bind.bind, EStateM.bind, trace, further, List.append_assoc]⟩
    · rintro e u ⟨more, also, further⟩
      exact ⟨done ++ more, also done well, by
        simp only [Bind.bind, EStateM.bind, trace, further, List.append_assoc]⟩
  · intro e t run
    obtain ⟨done, fails, trace⟩ := (first before).error run
    exact ⟨done, stop done e fails, by simp only [Bind.bind, EStateM.bind, trace]⟩

theorem Traces.mono {good' : List Attempt → Prop} {bad' : List Attempt → Error → Prop}
    (traces : Traces a b s good bad) (ok : ∀ done, good done → good' done)
    (error : ∀ done e, bad done e → bad' done e) : Traces a b s good' bad' := by
  intro before
  refine (traces before).mono ?_ ?_
  · rintro x t ⟨done, well, trace⟩
    exact ⟨done, ok done well, trace⟩
  · rintro e t ⟨done, fails, trace⟩
    exact ⟨done, error done e fails, trace⟩

def Quiet (a : Act (State ε (List Attempt × κ)) α) (b : Act (State ε κ) α) (s : State ε κ)
    (stop : Error → Prop) : Prop := Traces a b s (· = []) fun done e => done = [] ∧ stop e

theorem quiet_note (level : Level) (text : String) (s : State ε κ) :
    Quiet (note level text) (note level text) s fun _ => False := by
  intro before
  simp only [note, Act.ends_second, World.ends_note]
  exact ⟨[], rfl, by simp [Act.second, Act.focus, World.note, modify, modifyGet,
    MonadStateOf.modifyGet, EStateM.modifyGet]⟩

theorem quiet_ofExcept (r : Except Error α) (s : State ε κ) :
    Quiet (Act.ofExcept r) (Act.ofExcept r) s fun e => r = .error e := by
  intro before
  rw [Act.ends_ofExcept]
  constructor
  · rintro x rfl
    exact ⟨[], rfl, by simp [Act.ofExcept]⟩
  · rintro e rfl
    exact ⟨[], ⟨rfl, rfl⟩, by simp [Act.ofExcept]⟩

theorem traces_write (sink : Sink κ) (p : Path) (text : String) (s : State ε κ) :
    Traces (onSink (sink.traced.write p text)) (onSink (sink.write p text)) s
      Attempt.AllWritten Attempt.LastFailed := by
  intro before
  rw [onSink, Act.ends_focus]
  apply Act.Ends.of_runs
  · intro x t run
    refine ⟨[⟨p, text, none⟩], by simp [Attempt.AllWritten], ?_⟩
    simp [onSink, Act.focus, Sink.traced, run]
  · intro e t run
    refine ⟨[⟨p, text, some e⟩], ⟨[], _, rfl, by simp [Attempt.AllWritten], rfl⟩, ?_⟩
    simp [onSink, Act.focus, Sink.traced, run]

theorem quiet_query (f : ε → Except Error α) (s : State ε κ) :
    Quiet (do Act.ofExcept (f (← get).1)) (do Act.ofExcept (f (← get).1)) s
      fun e => f s.1 = .error e := by
  intro before
  rw [Act.ends_bind, Act.ends_get]
  exact quiet_ofExcept (f s.1) s before

theorem Quiet.bind {f : α → Act (State ε (List Attempt × κ)) β} {g : α → Act (State ε κ) β}
    {good' : List Attempt → Prop} {bad' : List Attempt → Error → Prop} {stop : Error → Prop}
    (first : Quiet a b s stop)
    (second : ∀ x t, b s = .ok x t → Traces (f x) (g x) t good' bad')
    (start : ∀ e, stop e → bad' [] e) : Traces (a >>= f) (b >>= g) s good' bad' := by
  refine Traces.bind first ?_ ?_
  · intro x t run
    refine (second x t run).mono ?_ ?_
    · rintro done well _ rfl
      exact well
    · rintro done e fails _ rfl
      exact fails
  · rintro _ e ⟨rfl, stops⟩
    exact start e stops

variable (engine : Engine ε) (sink : Sink κ) (r : Rerooting) (directory : Path)

def attempts (files : List EmittedFile) : List Attempt :=
  files.map fun f => ⟨r.target directory f.path, r.text f.text, none⟩

theorem traces_writeFiles (files : List EmittedFile) (s : State ε κ) :
    Traces (writeFiles sink.traced r directory files) (writeFiles sink r directory files) s
      Attempt.AllWritten Attempt.LastFailed := by
  induction files generalizing s with
  | nil => exact traces_pure _ (by simp [Attempt.AllWritten])
  | cons file rest ih =>
    refine (quiet_note _ _ s).bind ?_ fun _ => False.elim
    intro _ s _
    refine (traces_write sink _ _ s).bind ?_ fun _ _ => id
    intro _ s _
    refine (ih s).bind ?_ ?_
    · intro written s _
      refine traces_pure _ ?_
      intro done also before well
      simpa using well.append also
    · intro done e fails before well
      exact fails.append well

theorem quiet_noteBare (h : Handle) (files : List EmittedFile) (s : State ε κ) :
    Quiet (noteBare h files) (noteBare h files) s fun _ => False := by
  unfold noteBare
  split
  · exact quiet_note _ _ s
  · exact traces_pure () rfl

theorem traces_writeModules (handles : List Handle) (s : State ε κ)
    (known : ∀ h ∈ handles, ∃ files, engine.emitted s.1 h.id = .ok files) :
    Traces (writeModules engine sink.traced r directory handles)
      (writeModules engine sink r directory handles) s Attempt.AllWritten Attempt.LastFailed := by
  induction handles generalizing s with
  | nil => exact traces_pure _ (by simp [Attempt.AllWritten])
  | cons h rest ih =>
    obtain ⟨files, found⟩ := known h (by simp)
    have others {t : State ε κ} (same : t.1 = s.1) :
        ∀ h ∈ rest, ∃ files, engine.emitted t.1 h.id = .ok files := by
      intro h' member
      rw [same]
      exact known h' (by simp [member])
    rw [writeModules_cons, writeModules_cons]
    refine (quiet_query (fun e => engine.emitted e h.id) s).bind ?_ ?_
    · intro files t asked
      have queried : Act.Ends (do Act.ofExcept (engine.emitted (← get).1 h.id) : Act (State ε κ) _) s
          (fun _ t => t.1 = s.1) fun _ _ => True := by simp
      have same : t.1 = s.1 := queried.ok asked
      refine (quiet_noteBare h files t).bind ?_ fun _ => False.elim
      intro _ u noted
      obtain ⟨w, -, rfl⟩ := (ends_noteBare h files t).ok noted
      refine (traces_writeFiles sink r directory files _).bind ?_ fun _ _ => id
      intro written v run
      have kept : v.1 = s.1 := ((ends_writeFiles sink r directory files _).ok run).1.trans same
      refine (ih v (others kept)).bind ?_ ?_
      · intro more u _
        refine traces_pure _ ?_
        intro done also before well
        simpa using well.append also
      · intro done e fails before well
        exact fails.append well
    · intro e failed
      rw [found] at failed
      cases failed

/-- Once every question for what was emitted has an answer, an emission fails because of its last write or not
at all. -/
theorem traces_finish (registry : Registry) (count : Nat) (s : State ε κ)
    (known : ∀ h ∈ registry.handles, ∃ files, engine.emitted s.1 h.id = .ok files) :
    Traces (finish engine sink.traced r directory registry count)
      (finish engine sink r directory registry count) s Attempt.AllWritten Attempt.LastFailed := by
  refine (traces_writeModules engine sink r directory registry.handles s known).bind ?_
    fun _ _ failed => failed
  intro written t _
  refine (quiet_note _ _ t).bind ?_ fun _ => False.elim
  intro _ u _
  refine traces_pure _ ?_
  intro before well
  simpa using well

end Emission

namespace Build

open CompilerEngine (engine)

variable {κ : Type}

theorem emitted_of_reached {p : Plugin CompilerEngine} (reached : p.Reached engine)
    {e : CompilerEngine} (sound : e.Sound)
    (kept : ∀ i q, p.engine.sources.Knows i q → e.sources.Knows i q) {w w' : World}
    {e' : CompilerEngine} (emitted : engine.emit (e, w) = .ok () (e', w')) :
    ∀ h ∈ p.registry.handles, ∃ files, engine.emitted e' h.id = .ok files := by
  intro h member
  obtain ⟨q, source, -⟩ := kept _ _ ((reached.tracked CompilerEngine.tracks).known h member).2
  obtain ⟨c, rfl, done, declared⟩ := (CompilerEngine.ends_emit sound w).ok emitted
  obtain ⟨files, found, -⟩ := CompilerEngine.emitted?_of_emitted (e := { e with compilation := some c })
    rfl done declared source
  exact ⟨files, found⟩

theorem expandAll_of_missing {w : World} {root input q : Path} (target : root.resolve input = q)
    {e : FileError} (missing : w.tree.find w.directory q = .error e) (rest : List Path) :
    Inputs.expandAll w root (input :: rest) = .error (.noInput q) := by
  have first : Inputs.expand w q = .error (.noInput q) := by
    unfold Inputs.expand
    rw [missing]
  rw [Inputs.expandAll_cons, target, first]

theorem run_of_missing {κ : Type} (sink : Sink κ) {p : Plugin CompilerEngine} {w : World}
    {input q : Path} (target : p.config.root.resolve input = q) {e : FileError}
    (missing : w.tree.find w.directory q = .error e) (rest : List Path) (output : Output) (k : κ) :
    run engine sink (input :: rest) output (p, k, w) = .error (.noInput q) (p, k, w) := by
  simp only [run, present, Inputs.collect, Bind.bind, EStateM.bind, get, getThe, MonadStateOf.get,
    EStateM.get, Act.focus, Act.second, expandAll_of_missing target missing]
  rfl

def bareConfig : Config :=
  { Config.initial "/proj" with includes := .many [], excludes := .many [] }

def bareWorld : World :=
  ⟨.empty, ["proj"], [("DTSEMIT_TSC", "tsc")], fun _ _ t => ⟨t, .empty, .empty, 0⟩, [], []⟩

end Build

end DeclBundle
