import DeclBundle.Build.Inputs
import DeclBundle.Build.Plugin
import DeclBundle.Component.Script

namespace DeclBundle.Build

variable {ε : Type} (engine : Engine ε)

/-- What a bundler presents for a file: a text and an identifier. A component is presented by its
script. -/
def presented? (p : Path) (source : String) : Option (String × String) :=
  if p.extension? = some "vue" then
    (Script.ofSource? source).map fun script => (script.content, script.moduleId p)
  else some (source, p.text)

def transformFile (p : Path) : Act (Plugin ε × World) Nat := do
  let source ← (World.readText (.readInput p) p).second
  match presented? p source with
  | none =>
    (World.note .trace .driver (p.text ++ " has no script block")).second
    return 0
  | some (code, id) =>
    let handle ← Plugin.transform engine code id
    return if handle.isSome then 1 else 0

def transformAll : List Path → Act (Plugin ε × World) Nat
  | [] => pure 0
  | p :: rest => do
    let admitted ← transformFile engine p
    return admitted + (← transformAll rest)

def present (inputs : List Path) : Act (Plugin ε × World) Unit := do
  let root := (← get).1.config.root
  let files ← (Inputs.collect root inputs).second
  let admitted ← transformAll engine files
  (World.note .debug .driver
    ("Admitted " ++ toString admitted ++ " of " ++ toString files.length ++ " files")).second

def run {κ : Type} (sink : Sink κ) (inputs : List Path) (output : Output) :
    Act (Plugin ε × κ × World) Summary := do
  (present engine inputs).focus (fun (p, _, w) => (p, w)) (fun (_, k, _) (p, w) => (p, k, w))
  Plugin.generate engine sink output

end DeclBundle.Build
