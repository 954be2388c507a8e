import DeclBundle.Act
import DeclBundle.Files.Tree
import DeclBundle.Log

namespace DeclBundle

structure Invocation where
  command : Path
  arguments : List String
  directory : Place

structure Outcome where
  tree : FileTree
  stdout : ByteArray
  stderr : ByteArray
  status : Nat

structure Call where
  invocation : Invocation
  tree : FileTree

structure World where
  tree : FileTree
  directory : Place
  environment : List (String × String)
  /-- What the compiler does when it is run for the n-th time. -/
  compiler : Nat → Invocation → FileTree → Outcome
  calls : List Call := []
  log : List Record := []

namespace World

def lookupVariable (w : World) (name : String) : Option String := w.environment.lookup name

def directoryPath (w : World) : Path := w.directory.path

def isFile (w : World) (p : Path) : Bool := w.tree.isFile w.directory p

def isDirectory (w : World) (p : Path) : Bool := w.tree.isDirectory w.directory p

def addNote (r : Record) (w : World) : World := { w with log := w.log ++ [r] }

def note (level : Level) (area : Area) (text : String) : Act World Unit :=
  modify (addNote ⟨level, area, text⟩)

def noteAll (records : List Record) : Act World Unit :=
  modify fun w => { w with log := w.log ++ records }

def readText (task : FileTask) (p : Path) : Act World String := fun w =>
  match w.tree.readText w.directory p with
  | .ok text => .ok text w
  | .error e => .error (.file task e) w

def writeText (task : FileTask) (p : Path) (text : String) : Act World Unit := fun w =>
  match w.tree.write w.directory p text.toUTF8 with
  | .ok tree => .ok () { w with tree := tree }
  | .error e => .error (.file task e) w

def makePath (task : FileTask) (p : Path) : Act World Unit := fun w =>
  match w.tree.makePath w.directory p with
  | (.ok (), tree) => .ok () { w with tree := tree }
  | (.error e, tree) => .error (.file task e) { w with tree := tree }

def temporaryDirectory (w : World) : Path := ⟨(w.lookupVariable "TMPDIR").getD "/tmp"⟩

def runnable? (w : World) (here : Place) (p : Path) : Except FileError Unit :=
  match w.tree.find here p with
  | .error e => .error e
  | .ok (_, .file _ true) => .ok ()
  | .ok _ => .error .permissionDenied

/-- Looks a command up in the directories of the search path. A file that cannot be run is
remembered, in case that there is no other. -/
def searchPath (w : World) (here : Place) (command : String) (refused : Bool) :
    List String → Except FileError Unit
  | [] => .error (if refused then .permissionDenied else .notFound)
  | directory :: rest =>
    let p : Path := if directory = "" then ⟨command⟩ else Path.join ⟨directory⟩ ⟨command⟩
    match w.runnable? here p with
    | .ok () => .ok ()
    | .error .permissionDenied => searchPath w here command true rest
    | .error _ => searchPath w here command refused rest

def locate (w : World) (here : Place) (command : Path) : Except FileError Unit :=
  if command.text.isEmpty then .error .notFound
  else if command.text.toList.contains '/' then w.runnable? here command
  else
    let path := (w.lookupVariable "PATH").getD "/bin:/usr/bin"
    searchPath w here command.text false ((path.toList.splitOn ':').map String.ofList)

def run (command : Path) (arguments : List String) (directory : Path) : Act World Outcome := fun w =>
  let failed (e : FileError) := EStateM.Result.error (.file (.run command) e) w
  match w.tree.find w.directory directory with
  | .error e => failed e
  | .ok (place, .directory) =>
    match w.locate place command with
    | .error e => failed e
    | .ok () =>
      let invocation : Invocation := ⟨command, arguments, place⟩
      let outcome := w.compiler w.calls.length invocation w.tree
      .ok outcome { w with
        tree := outcome.tree
        calls := w.calls ++ [⟨invocation, w.tree⟩] }
  | .ok _ => failed .notADirectory

end World

end DeclBundle
