import DeclBundle.Diagnostic.Parser
import DeclBundle.Engine.Staging
import DeclBundle.Text.Utf8

namespace DeclBundle

structure Compilation where
  diagnostics : List Diagnostic
  outputs : List (List EmittedFile)
  emitted : Bool

structure CompilerEngine where
  options : ProjectOptions
  command : Path
  sources : Sources SourceText
  compilation : Option Compilation

namespace CompilerEngine

def withCommand (options : ProjectOptions) (command : Path) : CompilerEngine :=
  ⟨options, command, .empty, none⟩

/-- The compiler of a project: the one that the environment names, the one that the project has installed,
or the one on the search path. -/
def locate (root : Path) (w : World) : Path :=
  match w.lookupVariable "DTSEMIT_TSC" with
  | some command => ⟨command⟩
  | none =>
    let installed := ((root.join "node_modules").join ".bin").join "tsc"
    if w.isFile installed then installed else "tsc"

def register (p : Path) (text : SourceText) : Act (CompilerEngine × World) SourceId := do
  let (e, _) ← get
  if (e.sources.index? p).isSome then
    (World.note .debug .compiler ("Replacing earlier registration of " ++ p.text)).second
  let (sources, id) := e.sources.register p text
  modify fun (_, w) => ({ e with sources := sources, compilation := none }, w)
  (Act.ofExcept id).mapError .tooManySources

def addFile (p : Path) : Act (CompilerEngine × World) SourceId := do
  let (_, w) ← get
  match w.tree.find w.directory p with
  | .error e => throw (.file (.readSource p) e)
  | .ok (_, .file _ _) => register p .onDisk
  | .ok _ => throw (.notAFile p)

def freshDirectory (directory : Path) (start : String) : Act World Path := fun w =>
  let directory := if directory.isRooted then directory else w.directoryPath.join directory
  match w.tree.makeFresh w.directory directory start with
  | (p, .ok tree) => .ok p { w with tree := tree }
  | (p, .error e) => .error (.staging p e) w

/-- A staging directory: among the installed packages, so that imports of packages are found from it, or
else among temporary files. -/
def stagingDirectory (root : Path) : Act World Path := do
  let packages := root.join "node_modules"
  let temporary : Act World Path := do
    freshDirectory (← get).temporaryDirectory "dtsemit-"
  if (← get).isDirectory packages then
    match (freshDirectory packages ".dtsemit-").outcome (← get) with
    | (.ok p, w) =>
      set w
      return p
    | (.error (.staging p e), _) =>
      World.note .warn .compiler ("Cannot stage sources in " ++ packages.text ++ ": " ++
        stagingText p e ++ "; falling back to the temp directory")
      temporary
    | (.error e, _) => throw e
  else temporary

def stageSources (root overlay : Path) : List (Path × SourceText) → Act World Unit
  | [] => pure ()
  | (_, .onDisk) :: rest => stageSources root overlay rest
  | (p, .inMemory text) :: rest => do
    let staged := overlay.join (Staging.relative root p)
    match staged.parent? with
    | some directory => World.makePath (.makeStaged directory) directory
    | none => pure ()
    World.writeText (.stage staged) staged text
    stageSources root overlay rest

def readFiles (logical output : Path) : List String → Act World (List EmittedFile)
  | [] => pure []
  | name :: rest => do
    let p := output.withFileName name
    if (← get).isFile p then
      let text ← World.readText (.readEmitted p) p
      return ⟨logical.withFileName name, text⟩ :: (← readFiles logical output rest)
    else readFiles logical output rest

def readEmitted (logical output : Path) : Act World (List EmittedFile) :=
  match logical.fileName?.bind Staging.declarationName? with
  | some name => readFiles logical output [name, name ++ ".map"]
  | none => pure []

def readOutputs (l : Layout) : List (Path × Path) → Act World (List (List EmittedFile))
  | [] => pure []
  | (logical, compiled) :: rest => do
    let files ← readEmitted logical (l.output.join (l.base.relativeTo compiled))
    return files :: (← readOutputs l rest)

/-- The file that the compiler means by a name: for a staged source the path that it stands for. -/
def reportedFile (root : Path) (staged : List (Path × Path)) (name : String) : Path :=
  let p := root.resolve ⟨name⟩
  -- of sources that were staged at one place, the last one is on disk
  match staged.reverse.find? fun (q, _) => q.same p with
  | some (_, logical) => logical
  | none => p

def countDistinct (ps : List Path) : Nat :=
  (ps.foldl (fun seen p => if seen.any (·.same p) then seen else p :: seen) []).length

def printed (bytes : ByteArray) : List Char := Text.decodeLossy bytes.toList

/-- Fails if the compiler says on its error channel alone why it stopped. -/
def checkOutcome (command : Path) (outcome : Outcome) : Act World Unit :=
  let said := printed outcome.stderr
  if outcome.status != 0 && Text.allBlank (printed outcome.stdout) && !Text.allBlank said then
    throw (.compilerExit command outcome.status (String.ofList (Text.trim said)))
  else pure ()

def compileIn (e : CompilerEngine) (staging : Path) : Act World Compilation := do
  let root := e.options.root
  let sources := e.sources.entries
  let overlay := staging.join "overlay"
  stageSources root overlay sources
  let compiled := sources.map (Staging.compiledPath root overlay)
  let layout : Layout := ⟨overlay, staging.join "out", Staging.baseDirectory root compiled⟩
  let extending := (← get).isFile e.options.tsconfigPath
  let tsconfig := Staging.tsconfig e.options extending e.sources.paths layout compiled
  let tsconfigPath := staging.join "tsconfig.json"
  World.writeText (.writeTsconfig tsconfigPath) tsconfigPath (Json.indented 0 tsconfig)
  let staged := Staging.stagedPaths root overlay sources
  World.note .debug .compiler ("Running " ++ e.command.text ++ " on " ++ toString compiled.length ++
    " sources (" ++ toString (countDistinct (staged.map Prod.fst)) ++ " staged in " ++ staging.text ++ ")")
  let outcome ← World.run e.command ["--project", tsconfigPath.text, "--pretty", "false"] root
  checkOutcome e.command outcome
  let (diagnostics, unknown) :=
    Diagnostic.parse (reportedFile root staged) (printed outcome.stdout)
  World.noteAll (unknown.map fun line => ⟨.debug, .compiler, "Unrecognized tsc output: " ++ line⟩)
  let outputs ← readOutputs layout (e.sources.paths.zip compiled)
  return ⟨diagnostics, outputs, false⟩

def compile (e : CompilerEngine) : Act World Compilation := do
  if !e.options.skipListedFiles then
    World.note .warn .compiler
      "The tsc engine only compiles registered sources; tsconfig file lists are ignored"
  let staging ← stagingDirectory e.options.root
  (compileIn e staging).andFinally fun w => { w with tree := w.tree.removePath w.directory staging }

def ensureCompiled : Act (CompilerEngine × World) Compilation := do
  let (e, _) ← get
  match e.compilation with
  | some c => return c
  | none =>
    let c ← (compile e).second
    modify fun (e, w) => ({ e with compilation := some c }, w)
    return c

def emit : Act (CompilerEngine × World) Unit := do
  let c ← ensureCompiled
  modify fun (e, w) => ({ e with compilation := some { c with emitted := true } }, w)

def emitted? (e : CompilerEngine) (id : SourceId) : Except Error (List EmittedFile) :=
  match e.compilation.filter (·.emitted) with
  | none => .error (.notEmitted id)
  | some c =>
    match c.outputs[id.index]? with
    | some files => .ok files
    | none => .error (.unknownSource id)

def engine : Engine CompilerEngine where
  create options := do
    return withCommand options (locate options.root (← get))
  addText p text := register p (.inMemory text)
  addFile := addFile
  diagnostics := do
    return (← ensureCompiled).diagnostics
  emit := emit
  emitted := emitted?

end CompilerEngine

end DeclBundle
