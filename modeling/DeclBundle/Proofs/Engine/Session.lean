import DeclBundle.Proofs.Build.Inputs
import DeclBundle.Proofs.Engine.Attribution
import DeclBundle.Proofs.Engine.Registration
import DeclBundle.Proofs.Engine.Start

namespace DeclBundle

namespace CompilerEngine

open World (OneMore)

inductive Request where
  | text (p : Path) (text : String)
  | file (p : Path)
  | diagnostics
  | emission
  | files (id : SourceId)

inductive Answer where
  | registered (id : SourceId)
  | diagnosed (diagnostics : List Diagnostic)
  | emitted
  | files (files : List EmittedFile)

def Request.ask : Request → Act (CompilerEngine × World) Answer
  | text p source => Answer.registered <$> engine.addText p source
  | file p => Answer.registered <$> engine.addFile p
  | diagnostics => Answer.diagnosed <$> engine.diagnostics
  | emission => (fun _ => Answer.emitted) <$> engine.emit
  | files id => do Act.ofExcept ((engine.emitted (← get).1 id).map Answer.files)

def Request.source? : Request → Option (Path × SourceText)
  | text p source => some (p, .inMemory source)
  | file p => some (p, .onDisk)
  | _ => none

def Request.compiles : Request → Bool
  | diagnostics | emission => true
  | _ => false

structure Event where
  request : Request
  before : CompilerEngine × World
  result : Except Error Answer
  after : CompilerEngine × World

def Request.event (r : Request) (s : CompilerEngine × World) : Event :=
  ⟨r, s, (r.ask.outcome s).1, (r.ask.outcome s).2⟩

def session (e : CompilerEngine) : List (Request × World) → List Event
  | [] => []
  | (r, w) :: rest => r.event (e, w) :: session (r.event (e, w)).after.1 rest

namespace Event

def registration? (f : Event) : Option Registration :=
  match f.request, f.result with
  | .text p text, .ok (.registered id) => some ⟨p, .inMemory text, id⟩
  | .file p, .ok (.registered id) => some ⟨p, .onDisk, id⟩
  | _, _ => none

def overran (f : Event) : Bool :=
  match f.request.source?, f.result with
  | some _, .error (.tooManySources _) => true
  | _, _ => false

def entry? (f : Event) : Option (Path × SourceText) :=
  if f.overran then f.request.source? else f.registration?.map fun g => (g.path, g.source)

def compiled (f : Event) : Bool :=
  f.request.compiles && f.result.isOk && f.after.2.calls.length != f.before.2.calls.length

def emitted (f : Event) : Bool :=
  match f.request with
  | .emission => f.result.isOk
  | _ => false

theorem entry?_of_registration {f : Event} {g : Registration} (new : f.registration? = some g) :
    f.overran = false ∧ f.entry? = some (g.path, g.source) := by
  have numbered : f.overran = false := by
    obtain ⟨r, s, result, t⟩ := f
    cases result with
    | ok x => cases r <;> rfl
    | error e => cases r <;> cases new
  exact ⟨numbered, by simp [Event.entry?, numbered, new]⟩

theorem registration?_of_overran {f : Event} (overran : f.overran) : f.registration? = none := by
  cases new : f.registration? with
  | none => rfl
  | some g => simp [(entry?_of_registration new).1] at overran

theorem of_entry?_eq_none {f : Event} (old : f.entry? = none) :
    f.registration? = none ∧ f.overran = false := by
  have numbered : f.overran = false := by
    cases overran : f.overran with
    | false => rfl
    | true =>
      rw [Event.entry?, if_pos overran] at old
      simp [Event.overran, old] at overran
  exact ⟨by simpa [Event.entry?, numbered] using old, numbered⟩

inductive Changes (f : Event) : CompilerEngine → CompilerEngine → Prop
  | registered {e : CompilerEngine} {g : Registration} (new : f.registration? = some g)
      (number : SourceId.ofIndex (e.sources.insert g.path g.source).2 = .ok g.id)
      (idle : f.compiled = false) : Changes f e (e.enter g.path g.source)
  | overran {e : CompilerEngine} {s : Path × SourceText} (overran : f.overran)
      (new : f.request.source? = some s) (beyond : SourceId.limit ≤ (e.sources.insert s.1 s.2).2)
      (idle : f.compiled = false) : Changes f e (e.enter s.1 s.2)
  | kept {e : CompilerEngine} (old : f.entry? = none) (idle : f.compiled = false)
      (silent : f.emitted = false) : Changes f e e
  | reused {e : CompilerEngine} {c : Compilation} (old : f.entry? = none)
      (idle : f.compiled = false) (known : e.compilation = some c) (emitted : f.emitted) :
      Changes f e { e with compilation := some { c with emitted := true } }
  | compiled {e : CompilerEngine} {c : Compilation} (old : f.entry? = none)
      (new : f.compiled) (unknown : e.compilation = none)
      (outputs : c.outputs.length = e.sources.paths.length) (emitted : c.emitted = f.emitted) :
      Changes f e { e with compilation := some c }

end Event

theorem idle_event {r : Request} (quiet : r.compiles = false) (s : CompilerEngine × World)
    (result : Except Error Answer) (t : CompilerEngine × World) :
    Event.compiled ⟨r, s, result, t⟩ = false := by
  simp [Event.compiled, quiet]

theorem changes_register {r : Request} (quiet : r.compiles = false) (e : CompilerEngine) (w : World)
    {p : Path} {source : SourceText} (asks : r.source? = some (p, source))
    (takes : ∀ id t, Event.registration? ⟨r, (e, w), .ok (.registered id), t⟩ = some ⟨p, source, id⟩)
    {error : Error → CompilerEngine × World → Prop}
    {registration : Act (CompilerEngine × World) SourceId}
    (ends : Act.Ends registration (e, w)
      (fun id t => SourceId.ofIndex (e.sources.insert p source).2 = .ok id ∧ t.1 = e.enter p source) error)
    (fails : ∀ err t, error err t → Overruns e p source err t.1 ∨
      Event.Changes ⟨r, (e, w), .error err, t⟩ e t.1) :
    Act.Ends (Answer.registered <$> registration) (e, w)
      (fun x t => Event.Changes ⟨r, (e, w), .ok x, t⟩ e t.1)
      fun err t => Event.Changes ⟨r, (e, w), .error err, t⟩ e t.1 := by
  rw [Act.ends_map]
  refine ends.mono ?_ ?_
  · rintro id t ⟨number, after⟩
    rw [after]
    exact @Event.Changes.registered _ e ⟨p, source, id⟩ (takes id t) number (idle_event quiet ..)
  · rintro err t failed
    rcases fails err t failed with ⟨beyond, rfl, after⟩ | changes
    · rw [after]
      exact @Event.Changes.overran _ e (p, source) (by simp [Event.overran, asks]) asks beyond
        (idle_event quiet ..)
    · exact changes

theorem compiled_of_oneMore {r : Request} (compiles : r.compiles) {e : CompilerEngine} {w : World}
    {x : Answer} {t : CompilerEngine × World} (more : w.OneMore t.2) :
    Event.compiled ⟨r, (e, w), .ok x, t⟩ := by
  obtain ⟨call, calls⟩ := more
  simp [Event.compiled, compiles, calls, Except.isOk, Except.toBool]

theorem event_of_ends {r : Request} {s : CompilerEngine × World} {P : Event → Prop}
    (ends : Act.Ends r.ask s (fun x t => P ⟨r, s, .ok x, t⟩) fun err t => P ⟨r, s, .error err, t⟩) :
    P (r.event s) :=
  ends.outcome_result (P := fun result t => P ⟨r, s, result, t⟩)

theorem changes_event (r : Request) (e : CompilerEngine) (w : World) :
    (r.event (e, w)).Changes e (r.event (e, w)).after.1 := by
  have failed {r : Request} {err : Error} (w' : World)
      (numbered : Event.overran ⟨r, (e, w), .error err, (e, w')⟩ = false) :
      Event.Changes ⟨r, (e, w), .error err, (e, w')⟩ e e :=
    .kept (by simp [Event.entry?, numbered, Event.registration?])
      (by simp [Event.compiled, Except.isOk, Except.toBool]) (by cases r <;> rfl)
  apply event_of_ends (P := fun f => f.Changes e f.after.1)
  cases r with
  | text p source =>
    exact changes_register rfl e w rfl (fun _ _ => rfl) (ends_register ..) fun _ _ => .inl
  | file p =>
    refine changes_register rfl e w rfl (fun _ _ => rfl) (ends_addFile p e w) ?_
    rintro err t (⟨same, other⟩ | overruns)
    · cases same
      refine .inr (failed w ?_)
      cases err with
      | tooManySources cause => exact absurd rfl (other cause)
      | _ => rfl
    · exact .inl overruns
  | diagnostics =>
    simp only [Request.ask, engine, Act.ends_map, Act.ends_bind, Act.ends_pure]
    refine (ends_ensureCompiled_calls e w).mono ?_ ?_
    · rintro c ⟨e', w'⟩ (⟨known, same⟩ | ⟨unknown, fresh, outputs, rfl, launches⟩)
      · cases same
        exact .kept rfl (by simp [Event.compiled]) rfl
      · exact .compiled rfl (compiled_of_oneMore rfl launches.oneMore) unknown outputs fresh
    · rintro err ⟨e', w'⟩ ⟨-, rfl, -⟩
      exact failed w' rfl
  | emission =>
    simp only [Request.ask, engine, emit, Act.ends_map, Act.ends_bind, Act.ends_modify]
    refine (ends_ensureCompiled_calls e w).mono ?_ ?_
    · rintro c ⟨e', w'⟩ (⟨known, same⟩ | ⟨unknown, fresh, outputs, rfl, launches⟩)
      · cases same
        exact .reused rfl (by simp [Event.compiled]) known rfl
      · exact .compiled rfl (compiled_of_oneMore rfl launches.oneMore) unknown outputs rfl
    · rintro err ⟨e', w'⟩ ⟨-, rfl, -⟩
      exact failed w' rfl
  | files id =>
    simp only [Request.ask, Act.ends_bind, Act.ends_get, Act.ends_ofExcept]
    refine ⟨fun x _ => ?_, fun err _ => failed w rfl⟩
    exact .kept (by simp [Event.entry?, Event.overran, Event.registration?]) (idle_event rfl ..) rfl

/-- The compiler is run for a compilation, at most once, and not for what is compiled. -/
structure Event.Runs (f : Event) : Prop where
  once : f.after.2.calls = f.before.2.calls ∨
    f.request.compiles ∧ f.before.1.compilation = none ∧ f.before.2.OneMore f.after.2
  reuses : f.request.compiles → f.before.1.compilation.isSome → f.result.isOk ∧ f.after.2 = f.before.2

theorem runs_of_quiet {r : Request} (quiet : r.compiles = false) {s t : CompilerEngine × World}
    (result : Except Error Answer) (same : t.2.calls = s.2.calls) : Event.Runs ⟨r, s, result, t⟩ where
  once := .inl same
  reuses compiles := by simp [quiet] at compiles

theorem runs_ensureCompiled {r : Request} (compiles : r.compiles) (e : CompilerEngine) (w : World) :
    Act.Ends ensureCompiled (e, w)
      (fun _ t => ∀ x e', Event.Runs ⟨r, (e, w), .ok x, (e', t.2)⟩)
      fun err t => Event.Runs ⟨r, (e, w), .error err, t⟩ := by
  apply (ends_ensureCompiled_calls e w).mono
  · intro c t ended x e'
    rcases ended with ⟨known, rfl⟩ | ⟨unknown, -, -, -, launches⟩
    · exact ⟨.inl rfl, fun _ _ => ⟨rfl, rfl⟩⟩
    · exact ⟨.inr ⟨compiles, unknown, launches.oneMore⟩, fun _ known => by simp [unknown] at known⟩
  · intro err t ended
    obtain ⟨unknown, -, calls⟩ := ended
    exact ⟨calls.imp id fun launches => ⟨compiles, unknown, launches.oneMore⟩,
      fun _ known => by simp [unknown] at known⟩

theorem runs_event (r : Request) (e : CompilerEngine) (w : World) : (r.event (e, w)).Runs := by
  have logged {t : World} (logs : w.Logs t) : t.calls = w.calls := by
    obtain ⟨log, rfl⟩ := logs
    rfl
  apply event_of_ends
  cases r with
  | text p source =>
    rw [Request.ask, Act.ends_map]
    apply (registers.addText e w p source).mono
    · exact fun _ _ ended => runs_of_quiet rfl _ (logged ended.1)
    · exact fun _ _ ended => runs_of_quiet rfl _ (logged ended.1)
  | file p =>
    rw [Request.ask, Act.ends_map]
    apply (registers.addFile e w p).mono
    · exact fun _ _ ended => runs_of_quiet rfl _ (logged ended.1)
    · exact fun _ _ ended => runs_of_quiet rfl _ (logged ended.1)
  | diagnostics =>
    simp only [Request.ask, engine, Act.ends_map, Act.ends_bind, Act.ends_pure]
    exact (runs_ensureCompiled rfl e w).mono (fun _ _ runs => runs _ _) fun _ _ runs => runs
  | emission =>
    simp only [Request.ask, engine, emit, Act.ends_map, Act.ends_bind, Act.ends_modify]
    exact (runs_ensureCompiled rfl e w).mono (fun _ _ runs => runs _ _) fun _ _ runs => runs
  | files id =>
    simp only [Request.ask, Act.ends_bind, Act.ends_get, Act.ends_ofExcept]
    exact ⟨fun _ _ => runs_of_quiet rfl _ rfl, fun _ _ => runs_of_quiet rfl _ rfl⟩

theorem calls_of_quiet {r : Request} (quiet : r.compiles = false) (e : CompilerEngine) (w : World) :
    (r.event (e, w)).after.2.calls = w.calls := by
  rcases (runs_event r e w).once with idle | ⟨compiles, -⟩
  · exact idle
  · cases quiet.symm.trans compiles

structure Event.Answers (f : Event) (result : Except Error Compilation) : Prop where
  failed : ∀ error, result = .error error → f.result = .error error
  done : ∀ c, result = .ok c → f.result.isOk ∧
    ∃ c', f.after.1.compilation = some c' ∧ c'.diagnostics = c.diagnostics
  diagnosed : ∀ c, result = .ok c → f.request = .diagnostics → f.result = .ok (.diagnosed c.diagnostics)

theorem answers_error (r : Request) (s t : CompilerEngine × World) (error : Error) :
    Event.Answers ⟨r, s, .error error, t⟩ (.error error) := by
  refine ⟨fun _ same => congrArg Except.error (Except.error.inj same), ?_, ?_⟩
  · intro c same
    cases same
  · intro c same
    cases same

theorem answers_ok {f : Event} {c c' : Compilation} (done : f.result.isOk)
    (kept : f.after.1.compilation = some c') (same : c'.diagnostics = c.diagnostics)
    (diagnosed : f.request = .diagnostics → f.result = .ok (.diagnosed c.diagnostics)) :
    f.Answers (.ok c) where
  failed _ other := by cases other
  done _ ended := by
    cases ended
    exact ⟨done, c', kept, same⟩
  diagnosed _ ended asked := by
    cases ended
    exact diagnosed asked

theorem Event.Answers.not_isOk {f : Event} {error : Error} (answers : f.Answers (.error error)) :
    ¬f.result.isOk := by
  simp [answers.failed error rfl, Except.isOk, Except.toBool]

theorem ends_ensureCompiled_of_compile {e : CompilerEngine} {w : World}
    {Q : Except Error Compilation → World → Prop}
    (ends : Act.Ends (compile e) w (fun c t => Q (.ok c) t) fun error t => Q (.error error) t) :
    Act.Ends ensureCompiled (e, w)
      (fun c t => t.1.compilation = some c ∧ (t.2.calls = w.calls ∨ Q (.ok c) t.2))
      fun error t => Q (.error error) t.2 := by
  cases state : e.compilation with
  | some c => exact (ends_ensureCompiled_of_some state w).mpr ⟨state, .inl rfl⟩
  | none =>
    rw [ends_ensureCompiled_of_none state]
    exact ends.mono (fun _ _ ended => ⟨rfl, .inr ended⟩) fun _ _ ended => ended

theorem answers_event (r : Request) {e : CompilerEngine} {w : World}
    {Q : Except Error Compilation → World → Prop}
    (ends : Act.Ends (compile e) w (fun c t => Q (.ok c) t) fun error t => Q (.error error) t) :
    (r.event (e, w)).after.2.calls = w.calls ∨
      ∃ result, Q result (r.event (e, w)).after.2 ∧ (r.event (e, w)).Answers result := by
  have ensured := ends_ensureCompiled_of_compile ends
  cases r with
  | text p source => exact .inl (calls_of_quiet rfl e w)
  | file p => exact .inl (calls_of_quiet rfl e w)
  | files id => exact .inl (calls_of_quiet rfl e w)
  | diagnostics =>
    apply event_of_ends (P := fun f => f.after.2.calls = w.calls ∨
      ∃ result, Q result f.after.2 ∧ f.Answers result)
    simp only [Request.ask, engine, Act.ends_map, Act.ends_bind, Act.ends_pure]
    apply ensured.mono
    · intro c t ended
      exact ended.2.imp_right fun holds => ⟨.ok c, holds, answers_ok rfl ended.1 rfl fun _ => rfl⟩
    · exact fun error t holds => .inr ⟨.error error, holds, answers_error ..⟩
  | emission =>
    apply event_of_ends (P := fun f => f.after.2.calls = w.calls ∨
      ∃ result, Q result f.after.2 ∧ f.Answers result)
    simp only [Request.ask, engine, emit, Act.ends_map, Act.ends_bind, Act.ends_modify]
    apply ensured.mono
    · intro c t ended
      refine ended.2.imp_right fun holds => ⟨.ok c, holds, answers_ok rfl rfl rfl fun asked => ?_⟩
      cases asked
    · exact fun error t holds => .inr ⟨.error error, holds, answers_error ..⟩

theorem closes_event (r : Request) {e : CompilerEngine} {w : World} {call : Call}
    (ran : (r.event (e, w)).after.2.calls = w.calls ++ [call]) :
    ∃ staging before result, Chosen e.options.root w staging ∧ Starts e w.directory staging before call ∧
      Verdict e staging w call result ∧ (r.event (e, w)).Answers result := by
  have started : (r.event (e, w)).after.2.calls ≠ w.calls := by simp [ran]
  rcases answers_event r (Q := fun result t => t.calls = w.calls ∨ Closes e w t result)
    ((closes_compile e w).mono (fun _ _ => .inr) fun _ _ ended => ended) with
      idle | ⟨result, idle | ⟨staging, before, call', chosen, starts, calls, verdict⟩, answers⟩
  · exact absurd idle started
  · exact absurd idle started
  · obtain rfl : call' = call := by simpa [calls] using ran
    exact ⟨staging, before, result, chosen, starts, verdict, answers⟩

theorem Arranged.calls_event {e : CompilerEngine} {w : World} {staging : Path} {place : Place}
    {configured : ByteArray → FileTree} (arranged : Arranged e w staging place configured) {r : Request}
    (compiles : r.compiles) :
    ∃ bytes, (r.event (e, w)).after.2.calls =
      w.calls ++ [startIn e staging place (configured bytes)] := by
  apply event_of_ends (P := fun f => ∃ bytes, f.after.2.calls =
    w.calls ++ [startIn e staging place (configured bytes)])
  cases r with
  | diagnostics =>
    simp only [Request.ask, engine, Act.ends_map, Act.ends_bind, Act.ends_pure]
    exact arranged.calls_ensureCompiled
  | emission =>
    simp only [Request.ask, engine, emit, Act.ends_map, Act.ends_bind, Act.ends_modify]
    exact arranged.calls_ensureCompiled
  | text | file | files => cases compiles

def registrations (past : List Event) : List Registration := past.filterMap Event.registration?

/-- The different paths that were entered, in the order in which they first were. Those at the places below
the limit are numbered. -/
def numbered (past : List Event) : List Path :=
  Inputs.distinct ((past.filterMap Event.entry?).map Prod.fst)

/-- What has happened since a source was entered the last time. -/
def recent (past : List Event) : List Event := past.rtakeWhile fun f => f.entry?.isNone

theorem registrations_append (past : List Event) (f : Event) :
    registrations (past ++ [f]) = registrations past ++ f.registration?.toList := by
  cases new : f.registration? <;> simp [registrations, new]

theorem recent_of_entered {f : Event} {s : Path × SourceText} (new : f.entry? = some s)
    (past : List Event) : recent (past ++ [f]) = [] :=
  List.rtakeWhile_concat_neg _ _ _ (by simp [new])

theorem recent_of_old {f : Event} (old : f.entry? = none) (past : List Event) :
    recent (past ++ [f]) = recent past ++ [f] :=
  List.rtakeWhile_concat_pos _ _ _ (by simp [old])

/-- What an engine holds after some events. -/
structure Accounts (past : List Event) (e : CompilerEngine) : Prop where
  paths : e.sources.paths = numbered past
  below : ∀ g ∈ registrations past, g.id.index < SourceId.limit
  known : ∀ g ∈ registrations past, e.sources.Knows g.id g.path
  dense : ∀ i < e.sources.paths.length, i < SourceId.limit → ∃ g ∈ registrations past, g.id.index = i
  overran : ∀ g ∈ past, g.overran → SourceId.limit < e.sources.paths.length
  latest : HoldsLatest e.sources (registrations past).reverse
  outputs : ∀ c, e.compilation = some c → c.outputs.length = e.sources.paths.length
  compiled : e.compilation.isSome ↔ ∃ f ∈ recent past, f.compiled
  emitted : e.compilation.any (·.emitted) ↔ ∃ f ∈ recent past, f.emitted
  once : (recent past).countP Event.compiled ≤ 1

namespace Accounts

variable {past : List Event} {e e' : CompilerEngine} {f : Event}

theorem start (options : ProjectOptions) (command : Path) :
    Accounts [] (withCommand options command) where
  paths := rfl
  below := nofun
  known := nofun
  dense := nofun
  overran _ member := absurd member List.not_mem_nil
  latest := nofun
  outputs := nofun
  compiled := by simp [withCommand, recent]
  emitted := by simp [withCommand, recent]
  once := Nat.zero_le 1

theorem entered (accounts : Accounts past e) {p : Path} {source : SourceText}
    (new : f.entry? = some (p, source))
    (below : ∀ g ∈ registrations (past ++ [f]), g.id.index < SourceId.limit)
    (known : ∀ g ∈ registrations (past ++ [f]), (e.sources.insert p source).1.Knows g.id g.path)
    (dense : ∀ i < (e.sources.insert p source).1.paths.length, i < SourceId.limit →
      ∃ g ∈ registrations (past ++ [f]), g.id.index = i)
    (overran : f.overran → SourceId.limit < (e.sources.insert p source).1.paths.length)
    (latest : HoldsLatest (e.sources.insert p source).1 (registrations (past ++ [f])).reverse) :
    Accounts (past ++ [f]) (e.enter p source) where
  paths := by
    rw [numbered, List.filterMap_append, List.filterMap_cons_some new, List.filterMap_nil, List.map_append,
      List.map_singleton, Inputs.distinct_append]
    change (e.sources.insert p source).1.paths = _
    rw [Sources.paths_insert_eq, accounts.paths]
    rfl
  below := below
  known := known
  dense := dense
  overran g member full := by
    rcases List.mem_append.mp member with old | last
    · exact (accounts.overran g old full).trans_le (e.sources.length_paths_insert p source).1
    · exact overran (List.mem_singleton.mp last ▸ full)
  latest := latest
  outputs := nofun
  compiled := by simp [enter, recent_of_entered new]
  emitted := by simp [enter, recent_of_entered new]
  once := by simp [recent_of_entered new]

theorem registered (accounts : Accounts past e) {g : Registration} (new : f.registration? = some g)
    (number : SourceId.ofIndex (e.sources.insert g.path g.source).2 = .ok g.id) :
    Accounts (past ++ [f]) (e.enter g.path g.source) := by
  obtain ⟨unfull, entry⟩ := Event.entry?_of_registration new
  have all : registrations (past ++ [f]) = registrations past ++ [g] := by
    rw [registrations_append, new]
    rfl
  obtain ⟨below, id⟩ := SourceId.ofIndex_eq_ok_iff.mp number
  apply accounts.entered entry
  · rw [all]
    exact List.forall_mem_append.mpr ⟨accounts.below, List.forall_mem_singleton.mpr (by rwa [id])⟩
  · rw [all]
    refine List.forall_mem_append.mpr ⟨fun h old => (accounts.known h old).insert _ _, ?_⟩
    exact List.forall_mem_singleton.mpr (Sources.knows_insert number)
  · intro i bound numbered
    rw [all]
    rcases Sources.lt_or_eq_of_insert bound with old | rfl
    · obtain ⟨h, member, same⟩ := accounts.dense i old numbered
      exact ⟨h, List.mem_append_left _ member, same⟩
    · exact ⟨g, List.mem_append_right _ (List.mem_singleton_self _), by rw [id]⟩
  · simp [unfull]
  · rw [all, List.reverse_append]
    exact accounts.latest.insert number

theorem overrun (accounts : Accounts past e) {s : Path × SourceText} (full : f.overran)
    (new : f.request.source? = some s) (beyond : SourceId.limit ≤ (e.sources.insert s.1 s.2).2) :
    Accounts (past ++ [f]) (e.enter s.1 s.2) := by
  have entry : f.entry? = some (s.1, s.2) := by rw [Event.entry?, if_pos full, new]
  have all : registrations (past ++ [f]) = registrations past := by
    rw [registrations_append, Event.registration?_of_overran full]
    exact List.append_nil _
  apply accounts.entered entry
  · rw [all]
    exact accounts.below
  · rw [all]
    exact fun h old => (accounts.known h old).insert _ _
  · intro i bound numbered
    rw [all]
    have other := Nat.ne_of_lt (numbered.trans_le beyond)
    exact accounts.dense i ((Sources.lt_or_eq_of_insert bound).resolve_right other) numbered
  · exact fun _ => beyond.trans_lt (e.sources.index_insert_lt _ _)
  · rw [all]
    exact accounts.latest.overrun (fun r member => accounts.below r (List.mem_reverse.mp member)) beyond

theorem unentered (accounts : Accounts past e) (old : f.entry? = none)
    {compilation : Option Compilation}
    (outputs : ∀ c, compilation = some c → c.outputs.length = e.sources.paths.length)
    (compiled : compilation.isSome ↔ (∃ g ∈ recent past, g.compiled) ∨ f.compiled)
    (emitted : compilation.any (·.emitted) ↔ (∃ g ∈ recent past, g.emitted) ∨ f.emitted)
    (new : f.compiled → e.compilation = none) :
    Accounts (past ++ [f]) { e with compilation := compilation } := by
  obtain ⟨unregistered, numbered'⟩ := Event.of_entry?_eq_none old
  have all : registrations (past ++ [f]) = registrations past := by
    rw [registrations_append, unregistered]
    exact List.append_nil _
  have more (holds : Event → Prop) :
      (∃ g ∈ recent (past ++ [f]), holds g) ↔ (∃ g ∈ recent past, holds g) ∨ holds f := by
    rw [recent_of_old old]
    simp [or_and_right, exists_or]
  constructor
  · rw [numbered, List.filterMap_append, List.filterMap_cons_none old, List.filterMap_nil, List.append_nil]
    exact accounts.paths
  · rw [all]
    exact accounts.below
  · rw [all]
    exact accounts.known
  · rw [all]
    exact accounts.dense
  · intro g member full
    rcases List.mem_append.mp member with before | last
    · exact accounts.overran g before full
    · rw [List.mem_singleton.mp last, numbered'] at full
      cases full
  · rw [all]
    exact accounts.latest
  · exact outputs
  · exact compiled.trans (more _).symm
  · exact emitted.trans (more _).symm
  · rw [recent_of_old old, List.countP_append]
    by_cases ran : f.compiled
    · have none : ¬∃ g ∈ recent past, g.compiled := by simp [← accounts.compiled, new ran]
      rw [List.countP_eq_zero.mpr fun g member found => none ⟨g, member, found⟩, Nat.zero_add]
      exact List.countP_le_length
    · simpa [ran] using accounts.once

theorem step (accounts : Accounts past e) (changes : f.Changes e e') : Accounts (past ++ [f]) e' := by
  cases changes with
  | registered new number idle => exact accounts.registered new number
  | overran full new beyond idle => exact accounts.overrun full new beyond
  | kept old idle silent =>
    apply accounts.unentered old accounts.outputs
    · simp [idle, accounts.compiled]
    · simp [silent, accounts.emitted]
    · simp [idle]
  | @reused c old idle known emitted =>
    apply accounts.unentered old
    · intro c' same
      cases same
      exact accounts.outputs c known
    · have compiled := accounts.compiled
      simp only [known, Option.isSome_some, true_iff] at compiled
      simp [compiled]
    · simp [emitted]
    · simp [idle]
  -- It was the first since the last registration: otherwise its result would have been taken.
  | @compiled c old new unknown outputs emitted =>
    have none := accounts.emitted
    simp only [unknown, Option.any_none, Bool.false_eq_true, false_iff] at none
    apply accounts.unentered old
    · intro c' same
      cases same
      exact outputs
    · simp [new]
    · simp [none, ← emitted]
    · exact fun _ => unknown

end Accounts

theorem engine_of_session {I : List Event → CompilerEngine → Prop}
    (kept : ∀ {past e e' f}, I past e → Event.Changes f e e' → I (past ++ [f]) e') {past : List Event}
    {e : CompilerEngine} (start : I past e) {asked : List (Request × World)} {before after : List Event}
    {f : Event} (split : session e asked = before ++ f :: after) :
    ∃ r e' w, f = Request.event r (e', w) ∧ I (past ++ before) e' := by
  induction before generalizing past e asked with
  | nil =>
    cases asked with
    | nil => cases split
    | cons first rest =>
      obtain ⟨r, w⟩ := first
      have same := (List.cons.inj split).1
      exact ⟨r, e, w, same.symm, by rwa [List.append_nil]⟩
  | cons g before ih =>
    cases asked with
    | nil => cases split
    | cons first rest =>
      obtain ⟨r, w⟩ := first
      obtain ⟨rfl, split'⟩ := List.cons.inj split
      obtain ⟨r', e', w', event, start'⟩ := ih (kept start (changes_event r e w)) split'
      rw [List.append_assoc] at start'
      exact ⟨r', e', w', event, start'⟩

end CompilerEngine

end DeclBundle
