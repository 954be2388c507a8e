import DeclBundle.Config.Basic
import DeclBundle.World

namespace DeclBundle.Config

def fileName : Path := "dtsemit.toml"

def userFile? (w : World) : Option Path :=
  let named : Option Path := (w.lookupVariable "XDG_CONFIG_HOME").map Path.mk
  let home : Option Path := (w.lookupVariable "HOME").map Path.mk
  let directory := (named.filter Path.isRooted).or (home.map (·.join ".config"))
  directory.map fun directory => (directory.join "dtsemit").join fileName

def readLayer (p : Path) : Act World ConfigLayer := do
  World.note .debug .config ("Loading configuration from " ++ p.text)
  let source ← World.readText (.readConfig p) p
  (Act.ofExcept (ConfigLayer.ofText source)).mapError (.inConfig p)

def applyFile (p : Path) (c : Config) : Act World Config := do
  return c.apply (← readLayer p) (p.parent?.getD ".")

def applyFileIfAny (p : Option Path) (c : Config) : Act World Config := do
  match p with
  | none => return c
  | some p => if (← get).isFile p then applyFile p c else return c

def applyVariables (c : Config) : Act World Config := fun w =>
  match applyEnvironment w.lookupVariable w.directoryPath c with
  | .ok () c => .ok c w
  | .error e _ => .error e w

def load (explicit root : Option Path) : Act World Config := do
  let directory := (← get).directoryPath
  let given := root.map directory.resolve
  let c := initial (given.getD directory)
  let c ← applyFileIfAny (userFile? (← get)) c
  let c ← applyFileIfAny (some (c.root.join fileName)) c
  let c ← match explicit with
    | none => pure c
    | some p => applyFile (directory.resolve p) c
  let c ← applyVariables c
  return { c with root := given.getD c.root }

end DeclBundle.Config
