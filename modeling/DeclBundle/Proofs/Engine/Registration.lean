import DeclBundle.Engine.Compiler
import DeclBundle.Module.Admission
import DeclBundle.Proofs.Engine.Memory

namespace DeclBundle

structure Intake (α : Type) where
  ofText : String → Except Error α
  ofFile : World → Path → Except Error α
  full : Error

def Intake.held {α : Type} (intake : Intake α) (w : World) (code : String) : Admission → Except Error α
  | .script _ _ => intake.ofText code
  | .standalone p => intake.ofFile w p

def Sources.take {α : Type} (full : Error) (s : Sources α) (p : Path) :
    Except Error α → Except Error SourceId × Sources α
  | .error e => (.error e, s)
  | .ok x => ((s.register p x).2.mapError fun _ => full, (s.register p x).1)

section Take

variable {α : Type} {s : Sources α} {p : Path} {x : α} (full : Error)

theorem Sources.take_of_ok {id : SourceId} (number : (s.register p x).2 = .ok id) :
    s.take full p (.ok x) = (.ok id, (s.register p x).1) := by
  simp only [take, number, Except.mapError]

theorem Sources.take_of_error {e : Error} (none : (s.register p x).2 = .error e) :
    s.take full p (.ok x) = (.error full, (s.register p x).1) := by
  simp only [take, none, Except.mapError]

end Take

section Registers

variable {ε α : Type}

/-- From `e` and `w`, a registration takes what is to be held of a path. -/
def Engine.Enters (sources : ε → Sources α) (full : Error) (e : ε) (w : World) (p : Path)
    (held : Except Error α) (registration : Act (ε × World) SourceId) : Prop :=
  Act.Ends registration (e, w)
    (fun id t => w.Logs t.2 ∧ (.ok id, sources t.1) = (sources e).take full p held)
    fun error t => w.Logs t.2 ∧ (.error error, sources t.1) = (sources e).take full p held

theorem Engine.enters_throw (sources : ε → Sources α) (full : Error) (e : ε) (w : World) (p : Path)
    (error : Error) : Engine.Enters sources full e w p (.error error) (throw error) := by
  unfold Engine.Enters
  rw [Act.ends_throw]
  exact ⟨w.logs_refl, rfl⟩

theorem Engine.enters_get (sources : ε → Sources α) (full : Error) (e : ε) (w : World) (p : Path)
    (held : Except Error α) (f : ε × World → Act (ε × World) SourceId) :
    Engine.Enters sources full e w p held (get >>= f) ↔
      Engine.Enters sources full e w p held (f (e, w)) := by
  unfold Engine.Enters
  rw [Act.ends_bind, Act.ends_get]

structure Engine.Registers (engine : Engine ε) (sources : ε → Sources α) (intake : Intake α) : Prop where
  create (options : ProjectOptions) (w : World) :
    Act.Ends (engine.create options) w (fun e _ => sources e = .empty) fun _ _ => True
  logs {w t : World} (logs : w.Logs t) : intake.ofFile t = intake.ofFile w
  addText (e : ε) (w : World) (p : Path) (text : String) :
    Engine.Enters sources intake.full e w p (intake.ofText text) (engine.addText p text)
  addFile (e : ε) (w : World) (p : Path) :
    Engine.Enters sources intake.full e w p (intake.ofFile w p) (engine.addFile p)

theorem Engine.Registers.held_of_logs {engine : Engine ε} {sources : ε → Sources α} {intake : Intake α}
    (registers : engine.Registers sources intake) {w t : World} (logs : w.Logs t) :
    intake.held t = intake.held w := by
  funext code a
  cases a with
  | script component lang => rfl
  | standalone p => exact congrFun (registers.logs logs) p

end Registers

namespace CompilerEngine

def intake : Intake SourceText where
  ofText text := .ok (.inMemory text)
  ofFile w p :=
    match w.tree.find w.directory p with
    | .error e => .error (.file (.readSource p) e)
    | .ok (_, .file _ _) => .ok .onDisk
    | .ok _ => .error (.notAFile p)
  full := .tooManySources .outOfRange

theorem enters_register (e : CompilerEngine) (w : World) (p : Path) (text : SourceText) :
    Engine.Enters sources intake.full e w p (.ok text) (register p text) := by
  have taken {v : World} (logs : w.Logs v) :
      (∀ id, (e.sources.register p text).2 = .ok id → w.Logs v ∧
        (.ok id, (e.sources.register p text).1) = e.sources.take intake.full p (.ok text)) ∧
      ∀ error, (e.sources.register p text).2 = .error error → w.Logs v ∧
        (.error (.tooManySources error), (e.sources.register p text).1) =
          e.sources.take intake.full p (.ok text) := by
    refine ⟨fun id number => ⟨logs, (Sources.take_of_ok _ number).symm⟩, fun error none => ⟨logs, ?_⟩⟩
    obtain ⟨-, rfl⟩ := SourceId.ofIndex_eq_error_iff.mp none
    exact (Sources.take_of_error _ none).symm
  simp only [Engine.Enters, register, Act.ends_bind, Act.ends_get]
  split
  · simp only [Act.ends_bind, Act.ends_second, World.ends_note, Act.ends_modify, Act.ends_mapError,
      Act.ends_ofExcept]
    exact taken (w.logs_addNote _)
  · simp only [Act.ends_bind, Act.ends_modify, Act.ends_mapError, Act.ends_ofExcept]
    exact taken w.logs_refl

theorem registers : engine.Registers sources intake where
  create options w := by simp [engine, withCommand]
  logs := by
    rintro w _ ⟨log, rfl⟩
    rfl
  addText e w p text := enters_register e w p (.inMemory text)
  addFile e w p := by
    simp only [engine, addFile, Engine.enters_get]
    cases found : w.tree.find w.directory p with
    | error e =>
      have held : intake.ofFile w p = .error (.file (.readSource p) e) := by simp only [intake, found]
      rw [held]
      exact Engine.enters_throw ..
    | ok end_ =>
      obtain ⟨place, entry⟩ := end_
      cases entry with
      | file bytes runnable =>
        have held : intake.ofFile w p = .ok .onDisk := by simp only [intake, found]
        rw [held]
        exact enters_register e w p .onDisk
      | directory =>
        have held : intake.ofFile w p = .error (.notAFile p) := by simp only [intake, found]
        rw [held]
        exact Engine.enters_throw ..
      | link target =>
        have held : intake.ofFile w p = .error (.notAFile p) := by simp only [intake, found]
        rw [held]
        exact Engine.enters_throw ..

end CompilerEngine

namespace MemoryEngine

def textOf (script : MemoryScript) (w : World) (p : Path) : Except Error String :=
  match script.disk with
  | none =>
    match w.tree.readText w.directory p with
    | .ok text => .ok text
    | .error e => .error (.file (.load p) e)
  | some files =>
    match files.find? fun (q, _) => Path.same ⟨q⟩ p with
    | some (_, text) => .ok text
    | none => .error (.noSource p)

def intake (script : MemoryScript) : Intake String where
  ofText text := if .content ∈ script.failures then .error (.scripted .content) else .ok text
  ofFile w p := if .path ∈ script.failures then .error (.scripted .path) else textOf script w p
  full := .outOfRange

theorem ends_load_textOf (script : MemoryScript) (p : Path) (s : MemoryEngine × World) :
    Act.Ends (load script p) s (fun text t => t = s ∧ textOf script s.2 p = .ok text)
      fun e t => t = s ∧ textOf script s.2 p = .error e := by
  unfold load textOf
  cases script.disk with
  | none =>
    simp only [Act.ends_second, World.ends_readText]
    refine ⟨fun text read => ?_, fun e unread => ?_⟩
    · simp [read]
    · simp [unread]
  | some files =>
    cases found : files.find? fun (q, _) => Path.same ⟨q⟩ p with
    | none => simp [found]
    | some entry => simp [found]

theorem enters_register (e : MemoryEngine) (w : World) (p : Path) (text : String) :
    Engine.Enters sources .outOfRange e w p (.ok text) (register p text) := by
  simp only [Engine.Enters, register, Act.ends_bind, Act.ends_get, Act.ends_modify, Act.ends_ofExcept]
  refine ⟨fun id number => ⟨w.logs_refl, (Sources.take_of_ok _ number).symm⟩,
    fun error none => ⟨w.logs_refl, ?_⟩⟩
  obtain ⟨-, rfl⟩ := SourceId.ofIndex_eq_error_iff.mp none
  exact (Sources.take_of_error _ none).symm

theorem enters_guard (script : MemoryScript) (stage : Stage) {e : MemoryEngine} {w : World} {p : Path}
    {held : Except Error String} {registration : Act (MemoryEngine × World) SourceId}
    (enters : Engine.Enters sources .outOfRange e w p held registration) :
    Engine.Enters sources .outOfRange e w p
      (if stage ∈ script.failures then .error (.scripted stage) else held)
      (guard script stage >>= fun _ => registration) := by
  unfold Engine.Enters at enters ⊢
  rw [Act.ends_bind]
  by_cases told : stage ∈ script.failures
  · simp only [Act.Ends, guard, told, if_true]
    exact ⟨w.logs_refl, rfl⟩
  · simp only [told, if_false]
    have passes : Act.Ends (guard script stage) (e, w) (fun _ t => t = (e, w)) fun _ _ => False := by
      simp [Act.Ends, guard, told]
    refine passes.mono ?_ fun _ _ => False.elim
    rintro _ _ rfl
    exact enters

theorem enters_loaded (script : MemoryScript) (e : MemoryEngine) (w : World) (p : Path) :
    Engine.Enters sources .outOfRange e w p (textOf script w p) (do register p (← load script p)) := by
  unfold Engine.Enters
  rw [Act.ends_bind]
  refine (ends_load_textOf script p (e, w)).mono ?_ ?_
  · rintro text _ ⟨rfl, found⟩
    rw [found]
    exact enters_register e w p text
  · rintro error _ ⟨rfl, missing⟩
    rw [missing]
    exact ⟨w.logs_refl, rfl⟩

theorem registers (script : MemoryScript) : (engine script).Registers sources (intake script) where
  create options w := by
    simp only [engine, Act.ends_bind, Act.ends_pure]
    exact (ends_guard ..).mono (fun _ _ _ => trivial) fun _ _ _ => trivial
  logs := by
    rintro w _ ⟨log, rfl⟩
    rfl
  addText e w p text := enters_guard script .content (enters_register e w p text)
  addFile e w p := enters_guard script .path (enters_loaded script e w p)

end MemoryEngine

end DeclBundle
