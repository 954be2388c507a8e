import DeclBundle.Proofs.Build.Agreement

namespace DeclBundle

namespace Books

variable {α : Type}

def admitted (rulings : List (Ruling α)) : List (Admission × α) :=
  rulings.filterMap fun ruling => ruling.toOption.join

structure Lists (b : Books α) (taken : List (Admission × α)) : Prop where
  entries : b.sources.entries = taken.map fun t => (t.1.logicalPath, t.2)
  handles : b.registry.handles = taken.mapIdx fun i t => ⟨⟨i⟩, t.1.logicalPath, t.1.kind⟩

def Apart (taken : List (Admission × α)) : Prop :=
  taken.Pairwise fun s t => ¬s.1.logicalPath.same t.1.logicalPath

theorem Lists.push {b : Books α} {taken : List (Admission × α)} (lists : b.Lists taken)
    {a : Admission} (x : α) (apart : ∀ t ∈ taken, ¬t.1.logicalPath.same a.logicalPath) :
    (b.push a x).Lists (taken ++ [(a, x)]) ∧
      (b.sources.insert a.logicalPath x).2 = taken.length := by
  have unknown : b.sources.index? a.logicalPath = none := by
    rw [Sources.index?_eq_none_iff, Sources.paths, lists.entries]
    intro q member
    simp only [List.map_map, List.mem_map, Function.comp_apply] at member
    obtain ⟨t, inside, rfl⟩ := member
    exact apart t inside
  refine ⟨⟨?_, ?_⟩, ?_⟩
  · simp [Books.push, Sources.insert_of_unknown unknown, lists.entries]
  · simp [Books.push, Sources.insert_of_unknown unknown, lists.entries, lists.handles,
      Registry.push, List.mapIdx_append]
  · simp [Sources.insert_of_unknown unknown, lists.entries]

theorem admitted_cons (a : Admission) (x : α) (rest : List (Ruling α)) :
    admitted (.ok (some (a, x)) :: rest) = (a, x) :: admitted rest := by
  simp [admitted, Except.toOption]

theorem Apart.of_append {taken : List (Admission × α)} {a : Admission} {x : α}
    {rest : List (Admission × α)} (apart : Apart (taken ++ (a, x) :: rest)) :
    ∀ t ∈ taken, ¬t.1.logicalPath.same a.logicalPath := fun t member =>
  (List.pairwise_append.mp apart).2.2 t member (a, x) List.mem_cons_self

variable (full : Error)

theorem Lists.turns {b : Books α} {taken : List (Admission × α)} (lists : b.Lists taken)
    {rulings : List (Ruling α)} (apart : Apart (taken ++ admitted rulings))
    (room : (taken ++ admitted rulings).length ≤ SourceId.limit) :
    (b.turns full rulings).2.Lists (taken ++ admitted rulings) := by
  induction rulings generalizing b taken with
  | nil => simpa [admitted, Books.turns] using lists
  | cons ruling rest ih =>
    rcases ruling with e | _ | ⟨a, x⟩
    · exact ih lists apart room
    · exact ih lists apart room
    · rw [admitted_cons] at apart room ⊢
      obtain ⟨more, number⟩ := lists.push x apart.of_append
      have below : taken.length < SourceId.limit := by
        rw [List.length_append, List.length_cons] at room
        omega
      rw [List.append_cons] at apart room ⊢
      rcases turn_cases full b a x with ⟨-, turned⟩ | ⟨beyond, -⟩
      · rw [Books.turns, turned]
        exact ih more apart room
      · exact absurd (number ▸ beyond) (Nat.not_le.mpr below)

theorem Lists.room {b : Books α} {taken : List (Admission × α)} (lists : b.Lists taken)
    {rulings : List (Ruling α)} (apart : Apart (taken ++ admitted rulings))
    (fits : taken.length ≤ SourceId.limit) (never : .error full ∉ (b.turns full rulings).1) :
    (taken ++ admitted rulings).length ≤ SourceId.limit := by
  induction rulings generalizing b taken with
  | nil => simpa [admitted] using fits
  | cons ruling rest ih =>
    rw [Books.turns, List.mem_cons, not_or] at never
    rcases ruling with e | _ | ⟨a, x⟩
    · exact ih lists apart fits never.2
    · exact ih lists apart fits never.2
    · rw [admitted_cons] at apart ⊢
      obtain ⟨more, number⟩ := lists.push x apart.of_append
      rw [List.append_cons] at apart ⊢
      rcases turn_cases full b a x with ⟨below, turned⟩ | ⟨-, turned⟩
      · rw [turned] at never
        rw [number] at below
        exact ih more apart (by simpa using below) never.2
      · rw [turned] at never
        exact absurd rfl never.1

theorem paths_turns (b : Books α) {rulings : List (Ruling α)}
    (never : .error full ∉ (b.turns full rulings).1) :
    (b.turns full rulings).2.registry.handles.map Handle.logicalPath =
      b.registry.handles.map Handle.logicalPath ++
        (admitted rulings).map (·.1.logicalPath) := by
  induction rulings generalizing b with
  | nil => simp [admitted, Books.turns]
  | cons ruling rest ih =>
    rw [Books.turns, List.mem_cons, not_or] at never
    rw [Books.turns, ih _ never.2]
    rcases ruling with e | _ | ⟨a, x⟩
    · rfl
    · rfl
    · rcases turn_cases full b a x with ⟨-, turned⟩ | ⟨-, turned⟩
      · rw [turned, admitted_cons]
        simp [Books.push, Registry.push]
      · rw [turned] at never
        exact absurd rfl never.1

theorem apart_of_nodup {rulings : List (Ruling α)} (canonical : ∀ r ∈ rulings, Canonical r)
    (nodup : ((admitted rulings).map (·.1.logicalPath)).Nodup) : Apart (admitted rulings) := by
  have place : ∀ t ∈ admitted rulings, t.1.logicalPath.IsCanonical := by
    intro t member
    obtain ⟨ruling, inside, admits⟩ := List.mem_filterMap.mp member
    rcases ruling with e | _ | ⟨a, x⟩
    · cases admits
    · cases admits
    · cases admits
      exact canonical _ inside a x rfl
  have distinct := List.pairwise_map.mp nodup
  refine distinct.imp_of_mem ?_
  intro s t first second different same
  exact different (((place s first).same_iff (place t second)).mp same)

end Books

/-- An open sink takes what is written, and stays open. -/
def Sink.Takes {κ : Type} (sink : Sink κ) (Open : κ → Prop) : Prop :=
  ∀ k w, Open k → ∀ p text, Act.Ends (sink.write p text) (k, w) (fun _ t => Open t.1) fun _ _ => False

namespace Emission

variable {ε κ : Type} (engine : Engine ε) {sink : Sink κ} {Open : κ → Prop} (r : Rerooting)
  (directory : Path)

theorem ends_traced {good : Unit → (List Attempt × κ) × World → Prop}
    {bad : Error → (List Attempt × κ) × World → Prop} (sink : Sink κ) (p : Path) (text : String)
    (before : List Attempt) (k : κ) (w : World) :
    Act.Ends (sink.traced.write p text) ((before, k), w) good bad ↔
      Act.Ends (sink.write p text) (k, w)
        (fun x t => good x ((before ++ [⟨p, text, none⟩], t.1), t.2))
        fun e t => bad e ((before ++ [⟨p, text, some e⟩], t.1), t.2) := by
  unfold Act.Ends
  simp only [Sink.traced]
  cases sink.write p text (k, w) <;> rfl

theorem ends_onSink_traced (takes : sink.Takes Open) (p : Path) (text : String)
    (s : State ε (List Attempt × κ)) (opened : Open s.2.1.2) :
    Act.Ends (onSink (sink.traced.write p text)) s
      (fun _ t => t.1 = s.1 ∧ Open t.2.1.2 ∧ t.2.1.1 = s.2.1.1 ++ [⟨p, text, none⟩])
      fun _ _ => False := by
  obtain ⟨e, ⟨before, k⟩, w⟩ := s
  rw [onSink, Act.ends_focus, ends_traced]
  exact (takes k w opened p text).mono (fun _ _ still => ⟨rfl, still, rfl⟩) fun _ _ => id

theorem ends_writeFiles_traced (takes : sink.Takes Open) (files : List EmittedFile)
    (s : State ε (List Attempt × κ)) (opened : Open s.2.1.2) :
    Act.Ends (writeFiles sink.traced r directory files) s
      (fun written t => t.1 = s.1 ∧ Open t.2.1.2 ∧ written = targets r directory files ∧
        t.2.1.1 = s.2.1.1 ++ attempts r directory files)
      fun _ _ => False := by
  induction files generalizing s with
  | nil => simp [writeFiles, targets, attempts, opened]
  | cons file rest ih =>
    simp only [writeFiles, note, Act.ends_bind, Act.ends_second, World.ends_note, Act.ends_pure]
    refine (ends_onSink_traced takes _ _ _ (by exact opened)).mono ?_ fun _ _ => id
    rintro _ t ⟨same, opened', noted⟩
    refine (ih t opened').mono ?_ fun _ _ => id
    rintro _ u ⟨same', opened'', rfl, noted'⟩
    refine ⟨same'.trans same, opened'', rfl, ?_⟩
    rw [noted', noted]
    simp [attempts]

theorem ends_writeModules_traced (takes : sink.Takes Open) {files : Handle → List EmittedFile}
    (handles : List Handle) (s : State ε (List Attempt × κ)) (opened : Open s.2.1.2)
    (known : ∀ h ∈ handles, engine.emitted s.1 h.id = .ok (files h)) :
    Act.Ends (writeModules engine sink.traced r directory handles) s
      (fun written t => t.1 = s.1 ∧ written = targets r directory (handles.flatMap files) ∧
        t.2.1.1 = s.2.1.1 ++ attempts r directory (handles.flatMap files))
      fun _ _ => False := by
  induction handles generalizing s with
  | nil => simp [writeModules, targets, attempts]
  | cons h rest ih =>
    refine ends_writeModules_cons engine sink.traced r directory h rest s ?_ ?_
    · intro found w emitted _
      rw [known h (by simp)] at emitted
      obtain rfl := Except.ok.inj emitted
      refine (ends_writeFiles_traced r directory takes (files h) (s.1, s.2.1, w) opened).mono ?_
        fun _ _ => id
      rintro _ t ⟨same, opened', rfl, noted⟩
      have known' : ∀ g ∈ rest, engine.emitted t.1 g.id = .ok (files g) := by
        intro g member
        rw [same]
        exact known g (by simp [member])
      refine (ih t opened' known').mono ?_ fun _ _ => id
      rintro _ u ⟨same', rfl, noted'⟩
      refine ⟨same'.trans same, by simp [targets], ?_⟩
      rw [noted', noted]
      simp [attempts]
    · intro e refused
      rw [known h (by simp)] at refused
      cases refused

theorem ends_writeModules_refused {error : Error} {h : Handle} {rest : List Handle}
    (s : State ε (List Attempt × κ)) (refused : engine.emitted s.1 h.id = .error error) :
    Act.Ends (writeModules engine sink.traced r directory (h :: rest)) s (fun _ _ => False)
      fun e t => e = error ∧ t = s := by
  refine ends_writeModules_cons engine sink.traced r directory h rest s ?_ ?_
  · intro _ _ found _
    rw [refused] at found
    cases found
  · intro _ failed
    rw [refused] at failed
    exact ⟨(Except.error.inj failed).symm, rfl⟩

end Emission

namespace MemoryEngine

open Emission (targets attempts)

variable {κ : Type} {sink : Sink κ} {Open : κ → Prop} (script : MemoryScript)

def filesOf (taken : List (Admission × String)) : List EmittedFile :=
  taken.flatMap fun t => outputOf script t.1.logicalPath t.2

def ready (output : Output) (root : Path) (taken : List (Admission × String)) : Except Error Path :=
  match output.declarationDirectory root with
  | .error e => .error e
  | .ok directory =>
    if .diagnostics ∈ script.failures then .error (.scripted .diagnostics)
    else if .emit ∈ script.failures then .error (.scripted .emit)
    else if .emitted ∈ script.failures ∧ taken ≠ [] then .error (.scripted .emitted)
    else .ok directory

/-- The end of a build, and the calls of a sink that takes all. -/
def report (r : Rerooting) (output : Output) (taken : List (Admission × String)) :
    Except Error Summary × List Attempt :=
  match ready script output r.root taken with
  | .error e => (.error e, [])
  | .ok directory =>
    let broken := taken.filterMap fun t => brokenness t.1.logicalPath t.2
    let files := filesOf script taken
    (.ok ⟨taken.length, (script.diagnostics.getD broken).length, targets r directory files⟩,
      attempts r directory files)

theorem ends_guard_told {σ : Type} (stage : Stage) (s : σ) :
    Act.Ends (guard script stage) s (fun _ t => t = s ∧ stage ∉ script.failures)
      fun e t => t = s ∧ stage ∈ script.failures ∧ e = .scripted stage := by
  by_cases told : stage ∈ script.failures <;> simp [Act.Ends, guard, told]

variable {script} {registry : Registry} {e : MemoryEngine} {taken : List (Admission × String)}

def emittedFiles (script : MemoryScript) (e : MemoryEngine) (h : Handle) : List EmittedFile :=
  ((emitAll script e).outputs[h.id.index]?).getD []

theorem getElem?_outputs (lists : (⟨registry, e.sources⟩ : Books String).Lists taken) (i : Nat) :
    (emitAll script e).outputs[i]? =
      taken[i]?.map fun t => outputOf script t.1.logicalPath t.2 := by
  have entries : e.sources.entries = taken.map fun t => (t.1.logicalPath, t.2) := lists.entries
  simp [emitAll, entries, Function.comp_def]

theorem emitted_of_lists (lists : (⟨registry, e.sources⟩ : Books String).Lists taken)
    (obeys : .emitted ∉ script.failures) :
    ∀ h ∈ registry.handles,
      (engine script).emitted (emitAll script e) h.id = .ok (emittedFiles script e h) := by
  have handles : registry.handles = _ := lists.handles
  rw [handles]
  intro h member
  obtain ⟨i, bound, rfl⟩ := List.mem_mapIdx.mp member
  have output : (emitAll script e).outputs[i]? = _ := getElem?_outputs lists i
  rw [List.getElem?_eq_getElem bound] at output
  simp only [engine, outputs?, obeys, if_false, emittedFiles, output]
  rfl

theorem flatMap_emittedFiles (lists : (⟨registry, e.sources⟩ : Books String).Lists taken) :
    registry.handles.flatMap (emittedFiles script e) = filesOf script taken := by
  have handles : registry.handles = _ := lists.handles
  rw [handles, filesOf, List.flatMap_def, List.flatMap_def]
  congr 1
  apply List.ext_getElem?
  intro i
  rw [List.getElem?_map, List.getElem?_mapIdx, List.getElem?_map]
  cases found : taken[i]? with
  | none => rfl
  | some t => simp [emittedFiles, getElem?_outputs lists, found]

theorem ends_writeModules_lists (takes : sink.Takes Open) (r : Rerooting) (directory : Path)
    (lists : (⟨registry, e.sources⟩ : Books String).Lists taken) {k : κ} (opened : Open k) (w : World) :
    Act.Ends (Emission.writeModules (engine script) sink.traced r directory registry.handles)
      (emitAll script e, ([], k), w)
      (fun written t => ¬(.emitted ∈ script.failures ∧ taken ≠ []) ∧
        written = targets r directory (filesOf script taken) ∧
        t.2.1.1 = attempts r directory (filesOf script taken))
      fun error t => (.emitted ∈ script.failures ∧ taken ≠ []) ∧ error = .scripted .emitted ∧
        t.2.1.1 = [] := by
  have handles : registry.handles = _ := lists.handles
  -- Either the first question is refused, or all are answered.
  by_cases refuses : .emitted ∈ script.failures ∧ taken ≠ []
  · obtain ⟨h, rest, first⟩ : ∃ h rest, registry.handles = h :: rest := by
      rw [handles]
      exact List.exists_cons_of_ne_nil (by simpa using refuses.2)
    have refused : (engine script).emitted (emitAll script e) h.id = .error (.scripted .emitted) := by
      simp [engine, outputs?, refuses.1]
    rw [first]
    refine (Emission.ends_writeModules_refused (engine script) r directory _ refused).mono
      (fun _ _ => False.elim) ?_
    rintro _ _ ⟨rfl, rfl⟩
    exact ⟨refuses, rfl, rfl⟩
  · have known : ∀ h ∈ registry.handles,
        (engine script).emitted (emitAll script e) h.id = .ok (emittedFiles script e h) := by
      by_cases some : taken = []
      · simp [handles, some]
      · exact emitted_of_lists lists fun fails => refuses ⟨fails, some⟩
    refine (Emission.ends_writeModules_traced (engine script) r directory takes registry.handles
      (emitAll script e, ([], k), w) opened known).mono ?_ fun _ _ => False.elim
    rintro _ t ⟨-, rfl, noted⟩
    rw [noted, flatMap_emittedFiles lists]
    exact ⟨refuses, rfl, rfl⟩

theorem ends_emitDeclarations_report (takes : sink.Takes Open) (r : Rerooting) (output : Output)
    (lists : (⟨registry, e.sources⟩ : Books String).Lists taken) {k : κ} (opened : Open k) (w : World) :
    Act.Ends (Emission.emitDeclarations (engine script) sink.traced r registry output) (e, ([], k), w)
      (fun summary t => (.ok summary, t.2.1.1) = report script r output taken)
      fun error t => (.error error, t.2.1.1) = report script r output taken := by
  have size : registry.size = taken.length := by
    have handles : registry.handles = _ := lists.handles
    simp [Registry.size, handles]
  have broken : diagnosticsOf script e =
      script.diagnostics.getD (taken.filterMap fun t => brokenness t.1.logicalPath t.2) := by
    have entries : e.sources.entries = taken.map fun t => (t.1.logicalPath, t.2) := lists.entries
    simp [diagnosticsOf, entries, List.filterMap_map]
  have emit : (engine script).emit =
      (guard script .emit >>= fun _ => modify fun s => (emitAll script s.1, s.2)) := rfl
  have survey : (engine script).diagnostics =
      (guard script .diagnostics >>= fun _ => do return diagnosticsOf script (← get).1) := rfl
  rw [Emission.ends_emitDeclarations_iff]
  refine Emission.ends_prepare (fun error failed => by simp [report, ready, failed])
    fun directory found v _ => ?_
  rw [survey, Act.ends_bind]
  refine (ends_guard_told script .diagnostics (e, v)).mono ?_ ?_
  · rintro _ _ ⟨rfl, surveyed⟩
    simp only [Act.ends_bind, Act.ends_get, Act.ends_pure]
    intro u _
    rw [emit, Act.ends_bind]
    refine (ends_guard_told script .emit (e, u)).mono ?_ ?_
    · rintro _ _ ⟨rfl, emits⟩
      simp only [Act.ends_modify, Emission.finish, Emission.note, Act.ends_bind, Act.ends_second,
        World.ends_note, Act.ends_pure]
      refine (ends_writeModules_lists takes r directory lists opened u).mono ?_ ?_
      · rintro _ t ⟨given, rfl, noted⟩
        rw [noted, size, broken]
        simp [report, ready, found, surveyed, emits, given]
      · rintro _ t ⟨refuses, rfl, noted⟩
        rw [noted]
        simp [report, ready, found, surveyed, emits, refuses]
    · rintro _ _ ⟨rfl, told, rfl⟩
      simp [report, ready, found, surveyed, told]
  · rintro _ _ ⟨rfl, told, rfl⟩
    simp [report, ready, found, told]

end MemoryEngine

end DeclBundle
