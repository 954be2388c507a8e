import DeclBundle.Proofs.Build.Report

namespace DeclBundle

namespace MemoryEngine

variable {script : MemoryScript} {taken : List (Admission × String)}

def AlikeEnds : Except Error Summary → Except Error Summary → Prop
  | .ok s, .ok t => s.modules = t.modules ∧ s.diagnostics = t.diagnostics ∧ s.written.Perm t.written
  | .error e, .error f => e = f
  | _, _ => False

theorem ready_perm {others : List (Admission × String)} (perm : taken.Perm others) (output : Output)
    (root : Path) : ready script output root taken = ready script output root others := by
  have empty : taken = [] ↔ others = [] := by
    rw [← List.length_eq_zero_iff, ← List.length_eq_zero_iff, perm.length_eq]
  simp only [ready, ne_eq, empty]

variable (script) in
theorem report_perm {others : List (Admission × String)} (perm : taken.Perm others) (r : Rerooting)
    (output : Output) :
    AlikeEnds (report script r output taken).1 (report script r output others).1 ∧
      (report script r output taken).2.Perm (report script r output others).2 := by
  unfold report
  rw [ready_perm perm]
  cases ready script output r.root others with
  | error e => exact ⟨rfl, .refl _⟩
  | ok directory =>
    have files : (filesOf script taken).Perm (filesOf script others) := perm.flatMap_right _
    have broken := perm.filterMap fun t => brokenness t.1.logicalPath t.2
    refine ⟨⟨perm.length_eq, ?_, files.map _⟩, files.map _⟩
    cases script.diagnostics with
    | none => exact broken.length_eq
    | some ds => rfl

end MemoryEngine

namespace Plugin

variable {ε α : Type} {engine : Engine ε} {sources : ε → Sources α} {intake : Intake α}

def calling (call : String × String) : Notice := { code := call.1, id := call.2 }

theorem rulings_calling (registers : engine.Registers sources intake) (filter : PathFilter) (root : Path)
    (calls : List (String × String)) (s : Plugin ε × World) :
    rulings intake filter root (calls.map calling) (noticeAll engine (calls.map calling) s).1 =
      calls.map fun call => ruling intake filter root s.2 call.1 call.2 := by
  induction calls generalizing s with
  | nil => rfl
  | cons call rest ih =>
    obtain ⟨-, -, -, logs, -⟩ := turned_notice registers (calling call) s
    have kept : ruling intake filter root (notice engine (calling call) s).2.2 =
        ruling intake filter root s.2 := by
      funext code id
      unfold ruling
      rw [registers.held_of_logs logs]
      rfl
    have later := ih (notice engine (calling call) s).2
    rw [kept] at later
    simp only [List.map_cons, noticeAll, rulings, List.zipWith_cons_cons] at later ⊢
    rw [later]
    rfl

def ruled (intake : Intake α) (p : Plugin ε) (w : World) (calls : List (String × String)) :
    List (Ruling α) :=
  calls.map fun call => ruling intake p.filter p.config.root w call.1 call.2

theorem turns_calling (registers : engine.Registers sources intake) (calls : List (String × String))
    (s : Plugin ε × World) :
    let t := noticeAll engine (calls.map calling) s
    t.2.1.config = s.1.config ∧ (t.1.map Answer.result, t.2.1.books sources) =
      (s.1.books sources).turns intake.full (ruled intake s.1 s.2 calls) := by
  obtain ⟨config, -, turned⟩ := turns_noticeAll registers (calls.map calling) s
  rw [rulings_calling registers] at turned
  exact ⟨config, turned⟩

theorem unnumbered_calling (registers : engine.Registers sources intake) (calls : List (String × String))
    (s : Plugin ε × World)
    (room : (sources (noticeAll engine (calls.map calling) s).2.1.engine).paths.length ≤ SourceId.limit) :
    (noticeAll engine (calls.map calling) s).1.map (Books.unnumbered ·.result) =
      calls.map fun call => Books.place (ruling intake s.1.filter s.1.config.root s.2 call.1 call.2) := by
  obtain ⟨-, turned⟩ := turns_calling registers calls s
  have answered := Books.answered_turns intake.full (s.1.books sources) (ruled intake s.1 s.2 calls)
  rw [← turned] at answered
  have told := Books.unnumbered_of_answered intake.full answered room
  simpa [ruled, Function.comp_def] using told

section Bundles

open MemoryEngine (AlikeEnds)

variable {κ : Type} {sink : Sink κ} {Open : κ → Prop} {script : MemoryScript}

theorem bundle_report (takes : sink.Takes Open) (output : Output) {p : Plugin MemoryEngine}
    (empty : p.books MemoryEngine.sources = ⟨.empty, .empty⟩) (calls : List (String × String)) {k : κ}
    (opened : Open k) (w : World)
    (apart : Books.Apart (Books.admitted (ruled (MemoryEngine.intake script) p w calls)))
    (room : (Books.admitted (ruled (MemoryEngine.intake script) p w calls)).length ≤ SourceId.limit) :
    let b := bundle (MemoryEngine.engine script) sink.traced output (calls.map calling) p ([], k) w
    (b.result, b.sink.1) = MemoryEngine.report script ⟨p.config.root, p.config.cleanNames⟩ output
        (Books.admitted (ruled (MemoryEngine.intake script) p w calls)) ∧
      b.answers.map (Books.unnumbered ·.result) = calls.map fun call =>
        Books.place (ruling (MemoryEngine.intake script) p.filter p.config.root w call.1 call.2) := by
  have registers := MemoryEngine.registers script
  obtain ⟨config, turned⟩ := turns_calling registers calls (p, w)
  have none : (⟨.empty, .empty⟩ : Books String).Lists [] := ⟨rfl, rfl⟩
  have lists := none.turns (MemoryEngine.intake script).full apart room
  rw [← empty, ← congrArg Prod.snd turned, List.nil_append] at lists
  have known : (noticeAll (MemoryEngine.engine script) (calls.map calling) (p, w)).2.1.engine.sources.paths =
      (Books.admitted (ruled (MemoryEngine.intake script) p w calls)).map (·.1.logicalPath) := by
    have entries := congrArg (List.map Prod.fst) lists.entries
    simpa [books, Sources.paths, MemoryEngine.sources, Function.comp_def] using entries
  refine ⟨?_, unnumbered_calling registers calls (p, w) (by simpa [known] using room)⟩
  let q := (noticeAll (MemoryEngine.engine script) (calls.map calling) (p, w)).2
  change q.1.config = p.config at config
  let reports (result : Except Error Summary) (t : Plugin MemoryEngine × (List Attempt × κ) × World) :=
    (result, t.2.1.1) = MemoryEngine.report script ⟨p.config.root, p.config.cleanNames⟩ output
      (Books.admitted (ruled (MemoryEngine.intake script) p w calls))
  have ends : Act.Ends (generate (MemoryEngine.engine script) sink.traced output) (q.1, ([], k), q.2)
      (fun summary => reports (.ok summary)) fun error => reports (.error error) := by
    simp only [generate, Act.ends_bind, Act.ends_get, Act.ends_focus, config]
    exact MemoryEngine.ends_emitDeclarations_report takes _ output lists opened q.2
  exact ends.outcome_result (P := reports)

theorem apart_of_bundle {p : Plugin MemoryEngine}
    (empty : p.books MemoryEngine.sources = ⟨.empty, .empty⟩) (calls : List (String × String)) (w : World)
    (never : ∀ answer ∈ (noticeAll (MemoryEngine.engine script) (calls.map calling) (p, w)).1,
      answer.result ≠ .error .outOfRange)
    (nodup : ((noticeAll (MemoryEngine.engine script) (calls.map calling) (p, w)).2.1.registry.handles.map
      Handle.logicalPath).Nodup) :
    Books.Apart (Books.admitted (ruled (MemoryEngine.intake script) p w calls)) ∧
      (Books.admitted (ruled (MemoryEngine.intake script) p w calls)).length ≤ SourceId.limit := by
  obtain ⟨-, turned⟩ := turns_calling (MemoryEngine.registers script) calls (p, w)
  have canonical : ∀ r ∈ ruled (MemoryEngine.intake script) p w calls, Books.Canonical r := by
    intro r member
    obtain ⟨call, -, rfl⟩ := List.mem_map.mp member
    exact canonical_ruling _ _ _ _ _
  rw [empty] at turned
  have numbered : .error .outOfRange ∉ (Books.turns (MemoryEngine.intake script).full
      (ruled (MemoryEngine.intake script) p w calls) ⟨.empty, .empty⟩).1 := by
    rw [← turned, List.mem_map]
    rintro ⟨answer, member, full⟩
    exact never answer member full
  have paths : (noticeAll (MemoryEngine.engine script) (calls.map calling) (p, w)).2.1.registry.handles.map
      Handle.logicalPath =
        (Books.admitted (ruled (MemoryEngine.intake script) p w calls)).map (·.1.logicalPath) := by
    have general := Books.paths_turns (MemoryEngine.intake script).full ⟨.empty, .empty⟩ numbered
    rw [← turned] at general
    exact general
  have apart := Books.apart_of_nodup canonical (paths ▸ nodup)
  have none : (⟨.empty, .empty⟩ : Books String).Lists [] := ⟨rfl, rfl⟩
  exact ⟨apart, none.room (MemoryEngine.intake script).full apart (Nat.zero_le _) numbered⟩

/-- Modules with paths of their own may be noticed in any order, as long as there are numbers for all: each is
answered the same but for its number, the same is written, and all counts are the same. -/
theorem bundle_perm (takes : sink.Takes Open) (output : Output) {config : Config} {w w' : World}
    {p : Plugin MemoryEngine} (created : create (MemoryEngine.engine script) config w = .ok p w')
    {calls others : List (String × String)} (perm : calls.Perm others) {k : κ} (opened : Open k)
    (start : World) :
    let first := bundle (MemoryEngine.engine script) sink.traced output (calls.map calling) p ([], k)
      start
    let second := bundle (MemoryEngine.engine script) sink.traced output (others.map calling) p ([], k)
      start
    (∀ answer ∈ first.answers, answer.result ≠ .error .outOfRange) →
    (first.registry.handles.map Handle.logicalPath).Nodup →
      (∃ told : String × String → Except Error (Option (Path × ModuleKind)),
        first.answers.map (Books.unnumbered ·.result) = calls.map told ∧
          second.answers.map (Books.unnumbered ·.result) = others.map told) ∧
        AlikeEnds first.result second.result ∧ first.sink.1.Perm second.sink.1 := by
  intro first second never nodup
  have empty := ((ends_create_books (MemoryEngine.registers script) config w).ok created).2.2
  obtain ⟨apart, room⟩ := apart_of_bundle empty calls start never nodup
  have taken : (Books.admitted (ruled (MemoryEngine.intake script) p start calls)).Perm
      (Books.admitted (ruled (MemoryEngine.intake script) p start others)) :=
    (perm.map _).filterMap _
  have apart' := apart.perm taken fun different same => different (Path.same_symm same)
  obtain ⟨report, told⟩ := bundle_report takes output empty calls opened start apart room
  obtain ⟨report', told'⟩ :=
    bundle_report takes output empty others opened start apart' (taken.length_eq ▸ room)
  have alike := MemoryEngine.report_perm script taken ⟨p.config.root, p.config.cleanNames⟩ output
  rw [← report, ← report'] at alike
  exact ⟨⟨_, told, told'⟩, alike⟩

theorem takes_memory : Sink.memory.Takes (·.refuses = none) := by
  intro k w opened p text
  simp [Sink.memory, opened]

def menuCalls : List (String × String) :=
  [("export default 1", "/proj/Menu.vue?vue&type=script&lang.ts"), ("let menu = 1", "/proj/menu.ts")]

theorem bundle_perm_menu :
    ∃ p w, create (MemoryEngine.engine menuScript) Build.bareConfig Build.bareWorld = .ok p w ∧
      let run (calls : List (String × String)) := bundle (MemoryEngine.engine menuScript)
        Sink.memory.traced { directory := some "dist" } (calls.map calling) p ([], {}) w
      (run menuCalls).registry.handles =
          [⟨⟨0⟩, "/proj/Menu.vue.ts", .scriptBlock⟩, ⟨⟨1⟩, "/proj/menu.ts", .source⟩] ∧
        (run menuCalls.reverse).registry.handles =
          [⟨⟨0⟩, "/proj/menu.ts", .source⟩, ⟨⟨1⟩, "/proj/Menu.vue.ts", .scriptBlock⟩] ∧
        (run menuCalls).sink.1.length = 2 ∧
        (∃ told : String × String → Except Error (Option (Path × ModuleKind)),
          (run menuCalls).answers.map (Books.unnumbered ·.result) = menuCalls.map told ∧
            (run menuCalls.reverse).answers.map (Books.unnumbered ·.result) =
              menuCalls.reverse.map told) ∧
        AlikeEnds (run menuCalls).result (run menuCalls.reverse).result ∧
        (run menuCalls).sink.1.Perm (run menuCalls.reverse).sink.1 := by
  let run (p : Plugin MemoryEngine) (w : World) (calls : List (String × String)) :=
    bundle (MemoryEngine.engine menuScript) Sink.memory.traced { directory := some "dist" }
      (calls.map calling) p ([], {}) w
  obtain ⟨p, w, created, first, second, both, numbered⟩ : ∃ p w,
      create (MemoryEngine.engine menuScript) Build.bareConfig Build.bareWorld = .ok p w ∧
        (run p w menuCalls).registry.handles =
          [⟨⟨0⟩, "/proj/Menu.vue.ts", .scriptBlock⟩, ⟨⟨1⟩, "/proj/menu.ts", .source⟩] ∧
        (run p w menuCalls.reverse).registry.handles =
          [⟨⟨0⟩, "/proj/menu.ts", .source⟩, ⟨⟨1⟩, "/proj/Menu.vue.ts", .scriptBlock⟩] ∧
        (run p w menuCalls).sink.1.length = 2 ∧
        (run p w menuCalls).answers.map Answer.result =
          [.ok (some ⟨⟨0⟩, "/proj/Menu.vue.ts", .scriptBlock⟩),
            .ok (some ⟨⟨1⟩, "/proj/menu.ts", .source⟩)] :=
    ⟨_, _, rfl, by decide, by decide, by decide, rfl⟩
  have never : ∀ answer ∈ (run p w menuCalls).answers, answer.result ≠ .error .outOfRange := by
    intro answer member full
    have refused := List.mem_map_of_mem (f := Answer.result) member
    rw [numbered, full] at refused
    simp at refused
  have apart : ((run p w menuCalls).registry.handles.map Handle.logicalPath).Nodup := by
    rw [first]
    decide
  exact ⟨p, w, created, first, second, both, bundle_perm takes_memory { directory := some "dist" }
    created (List.reverse_perm menuCalls).symm rfl w never apart⟩

end Bundles

end Plugin

end DeclBundle
