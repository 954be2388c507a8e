import DeclBundle.Build.Emission
import DeclBundle.Config.Basic
import DeclBundle.Json.Printer
import DeclBundle.Module.Admission

namespace DeclBundle

structure Plugin (ε : Type) where
  config : Config
  filter : PathFilter
  engine : ε
  registry : Registry

def CompilerOptions.notes (options : CompilerOptions) : List Record :=
  options.conflicts.map fun (key, v) =>
    ⟨.warn, .options, "Ignoring compiler option `" ++ key ++ ": " ++ Json.compact v ++
      "`; declaration emission requires `true`"⟩

def Registry.notes (r : Registry) (p : Path) : List Record :=
  match r.position? p with
  | some i => [⟨.debug, .registry,
      "Module " ++ p.text ++ " admitted again (previous handle #" ++ toString i ++ ")"⟩]
  | none => []

namespace Plugin

variable {ε : Type} (engine : Engine ε)

def create (config : Config) : Act World (Plugin ε) := do
  let filter ← Act.ofExcept config.filter
  let options := config.projectOptions
  World.noteAll ((config.project.getD {}).options.notes)
  World.note .debug .session
    ("Creating compiler session (tsconfig: " ++ options.tsconfigPath.text ++ ")")
  let e ← (engine.create options).mapError .noEngine
  return ⟨config, filter, e, .empty⟩

def onEngine (a : Act (ε × World) α) : Act (Plugin ε × World) α :=
  a.focus (fun (p, w) => (p.engine, w)) (fun (p, _) (e, w) => ({ p with engine := e }, w))

def note (level : Level) (text : String) : Act (Plugin ε × World) Unit :=
  (World.note level .plugin text).second

/-- Gives a module to the engine: a script as the bundler's text, any other source as a file. -/
def registerSource (code : String) : Admission → Act (Plugin ε × World) SourceId
  | .script component lang => do
    note .debug ("Script block of " ++ component.text ++ " (" ++ lang.label ++ ") registered by content")
    onEngine (engine.addText (Admission.script component lang).logicalPath code)
  | .standalone p => onEngine (engine.addFile p)

def enroll (code id : String) (a : Admission) : Act (Plugin ε × World) Handle := do
  let source ← registerSource engine code a
  let handle : Handle := ⟨source, a.logicalPath, a.kind⟩
  note .debug ("Admitted " ++ id ++ " as " ++ handle.logicalPath.text ++ " (" ++ a.kind.label ++ ")")
  (World.noteAll ((← get).1.registry.notes handle.logicalPath)).second
  modify fun (p, w) => ({ p with registry := p.registry.push handle }, w)
  return handle

def transform (code id : String) : Act (Plugin ε × World) (Option Handle) := do
  if code.isEmpty then
    note .trace ("Skipping " ++ id ++ ": empty module")
    return none
  let (p, _) ← get
  (World.noteAll (p.filter.notes id)).second
  if !p.filter.accepts id then
    note .trace ("Skipping " ++ id ++ ": filtered out")
    return none
  match classify id p.config.root with
  | none =>
    note .trace ("Skipping " ++ id ++ ": not declaration-relevant")
    return none
  | some a => return some (← enroll engine code id a)

def generate {κ : Type} (sink : Sink κ) (output : Output) : Act (Plugin ε × κ × World) Summary := do
  let (p, _) ← get
  (Emission.emitDeclarations engine sink ⟨p.config.root, p.config.cleanNames⟩ p.registry output).focus
    (fun (p, k, w) => (p.engine, k, w)) (fun (p, _) (e, k, w) => ({ p with engine := e }, k, w))

end Plugin

end DeclBundle
