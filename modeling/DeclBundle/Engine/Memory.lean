import DeclBundle.Engine.Basic
import DeclBundle.Module.Sources
import DeclBundle.Text.Blank
import DeclBundle.Text.Lines
import DeclBundle.Text.Search

namespace DeclBundle

structure MemoryScript where
  disk : Option (List (String × String)) := none
  diagnostics : Option (List Diagnostic) := none
  emit : List (String × List EmittedFile) := []
  failures : List Stage := []

structure MemoryEngine where
  sources : Sources String
  outputs : List (List EmittedFile)

namespace MemoryEngine

def guard (script : MemoryScript) (stage : Stage) : Act σ Unit := fun s =>
  if stage ∈ script.failures then .error (.scripted stage) s else .ok () s

def register (p : Path) (text : String) : Act (MemoryEngine × World) SourceId := do
  let (e, _) ← get
  let (sources, id) := e.sources.register p text
  modify fun (_, w) => ({ e with sources := sources }, w)
  Act.ofExcept id

def load (script : MemoryScript) (p : Path) : Act (MemoryEngine × World) String :=
  match script.disk with
  | none => (World.readText (.load p) p).second
  | some files =>
    match files.find? fun (q, _) => Path.same ⟨q⟩ p with
    | some (_, text) => pure text
    | none => throw (.noSource p)

/-- A source that says of itself that it is broken. -/
def brokenness (p : Path) (text : String) : Option Diagnostic :=
  if Text.contains "@error".toList text.toList then
    some ⟨.error, 2322, "broken source " ++ p.text, none⟩
  else none

def diagnosticsOf (script : MemoryScript) (e : MemoryEngine) : List Diagnostic :=
  script.diagnostics.getD (e.sources.entries.filterMap fun (p, text) => brokenness p text)

def exportedLines (text : String) : List (List Char) :=
  (Text.lines text.toList).filter fun line => "export ".toList.isPrefixOf (Text.trimStart line)

def declarationPath (p : Path) : Path :=
  let stem := [".tsx", ".ts", ".jsx", ".js"].findSome? fun ending =>
    Text.dropTail? ending.toList p.text.toList
  ⟨String.ofList (stem.getD p.text.toList) ++ ".d.ts"⟩

def declarations (p : Path) (text : String) : List EmittedFile :=
  match exportedLines text with
  | [] => []
  | lines => [⟨declarationPath p, String.ofList (lines.flatMap (· ++ ['\n']))⟩]

def outputOf (script : MemoryScript) (p : Path) (text : String) : List EmittedFile :=
  match script.emit.find? fun (q, _) => Path.same ⟨q⟩ p with
  | some (_, files) => files
  | none => declarations p text

def emitAll (script : MemoryScript) (e : MemoryEngine) : MemoryEngine :=
  { e with outputs := e.sources.entries.map fun (p, text) => outputOf script p text }

def outputs? (script : MemoryScript) (e : MemoryEngine) (id : SourceId) :
    Except Error (List EmittedFile) :=
  if Stage.emitted ∈ script.failures then .error (.scripted .emitted)
  else match e.outputs[id.index]? with
    | some files => .ok files
    | none => .error (.unknownSource id)

def engine (script : MemoryScript) : Engine MemoryEngine where
  create _ := do
    guard script .options
    return ⟨.empty, []⟩
  addText p text := do
    guard script .content
    register p text
  addFile p := do
    guard script .path
    register p (← load script p)
  diagnostics := do
    guard script .diagnostics
    return diagnosticsOf script (← get).1
  emit := do
    guard script .emit
    modify fun (e, w) => (emitAll script e, w)
  emitted := outputs? script

end MemoryEngine

end DeclBundle
