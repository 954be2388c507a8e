import DeclBundle.Build.Run
import DeclBundle.CommandLine.Arguments
import DeclBundle.CommandLine.LogFilter
import DeclBundle.Config.Load
import DeclBundle.Engine.Compiler

namespace DeclBundle.Program

def configure (a : Arguments) (c : Config) : Config where
  includes := if a.includes.isEmpty then c.includes else .ofGlobs a.includes
  excludes := if a.excludes.isEmpty then c.excludes else .ofGlobs a.excludes
  root := c.root
  project := c.project
  cleanNames := a.cleanNames || c.cleanNames

def output (a : Arguments) : Except Error Output :=
  match a.outputFile, a.outputDirectory with
  | some file, _ => .ok { file := some file }
  | none, some directory => .ok { directory := some directory }
  | none, none => .error .noOutputOption

def buildInto {κ : Type} (sink : Sink κ) (k : κ) (plugin : Plugin CompilerEngine) (inputs : List Path)
    (o : Output) : Act World Summary :=
  (Build.run CompilerEngine.engine sink inputs o).focus (fun w => (plugin, k, w)) fun _ (_, _, w) => w

def perform (a : Arguments) : Act World Unit := do
  let config := configure a (← Config.load a.config a.root)
  let o ← Act.ofExcept (output a)
  let directory := (← get).directoryPath
  let inputs := a.inputs.map directory.resolve
  let plugin ← Plugin.create CompilerEngine.engine config
  let summary ←
    if a.dryRun then do
      World.note .info .program "Dry run: nothing will be written"
      buildInto Sink.dryRun [] plugin inputs o
    else buildInto Sink.disk () plugin inputs o
  if summary.diagnostics > 0 then
    World.note .info .program (toString summary.diagnostics ++
      " compiler diagnostics reported; declarations were still emitted")

def detail (verbosity : Nat) : Nat :=
  match verbosity with
  | 0 => Level.info.detail
  | 1 => Level.debug.detail
  | _ => Level.trace.detail

structure Exit where
  code : Nat
  shown : List String
  world : World

/-- Runs the program. Its code is 2 if the arguments are not right, and 1 if the build fails. -/
def run (arguments : List String) (w : World) : Exit :=
  match Arguments.ofList arguments with
  | .error .information => ⟨0, [], w⟩
  | .error .usage => ⟨2, [], w⟩
  | .ok a =>
    let (result, after) := (perform a).outcome w
    let (code, after) := match result with
      | .ok () => (0, after)
      | .error e => (1, after.addNote ⟨.error, .program, e.text .system⟩)
    let filter := LogFilter.ofSettings (detail a.verbosity) (w.lookupVariable "RUST_LOG")
    ⟨code, (after.log.filter filter.shows).map Record.line, after⟩

end DeclBundle.Program
