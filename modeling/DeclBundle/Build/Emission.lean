import DeclBundle.Build.Target
import DeclBundle.Engine.Basic
import DeclBundle.Module.Registry
import DeclBundle.Sink

namespace DeclBundle

structure Summary where
  modules : Nat
  diagnostics : Nat
  written : List Path
deriving DecidableEq, Repr

namespace Emission

abbrev State (ε κ : Type) := ε × κ × World

def onEngine (a : Act (ε × World) α) : Act (State ε κ) α :=
  a.focus (fun (e, _, w) => (e, w)) (fun (_, k, _) (e, w) => (e, k, w))

def onSink (a : Act (κ × World) α) : Act (State ε κ) α :=
  a.focus (fun (_, k, w) => (k, w)) (fun (e, _, _) (k, w) => (e, k, w))

def note (level : Level) (text : String) : Act (State ε κ) Unit :=
  ((World.note level .emit text).second).second

variable {ε κ : Type} (engine : Engine ε) (sink : Sink κ) (r : Rerooting) (directory : Path)

def writeFiles : List EmittedFile → Act (State ε κ) (List Path)
  | [] => pure []
  | file :: rest => do
    let target := r.target directory file.path
    note .debug (file.path.text ++ " -> " ++ target.text)
    onSink (sink.write target (r.text file.text))
    return target :: (← writeFiles rest)

def writeModules : List Handle → Act (State ε κ) (List Path)
  | [] => pure []
  | h :: rest => do
    let files ← Act.ofExcept (engine.emitted (← get).1 h.id)
    if files.isEmpty then
      note .debug ("No declarations for " ++ h.logicalPath.text ++ " (" ++ h.kind.label ++ ")")
    let written ← writeFiles sink r directory files
    return written ++ (← writeModules rest)

def emitDeclarations (registry : Registry) (output : Output) : Act (State ε κ) Summary := do
  let directory ← Act.ofExcept (output.declarationDirectory r.root)
  note .debug ("Writing declarations for " ++ toString (registry.count .source) ++ " sources and " ++
    toString (registry.count .scriptBlock) ++ " script blocks into " ++ directory.text)
  let diagnostics ← onEngine engine.diagnostics
  if !diagnostics.isEmpty then note .warn (Diagnostic.format diagnostics)
  onEngine engine.emit
  let written ← writeModules engine sink r directory registry.handles
  note .info ("Emitted " ++ toString written.length ++ " declaration files for " ++
    toString registry.size ++ " modules")
  return ⟨registry.size, diagnostics.length, written⟩

end Emission

end DeclBundle
