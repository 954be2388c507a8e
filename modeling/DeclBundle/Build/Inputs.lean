import DeclBundle.Path.Location
import DeclBundle.World

namespace DeclBundle.Inputs

def extensions : List String := ["vue", "ts", "tsx", "mts", "cts", "js", "jsx"]

def skippedNames : List String := ["node_modules", ".git", "dist"]

def hasKnownExtension (p : Path) : Bool := p.extension?.any (· ∈ extensions)

/-- The files below a directory, in the order of their names, without those of skipped directories. Links
are not followed. The fuel bounds the depth. -/
def filesBelow (t : FileTree) : Nat → Place → Path → List Path
  | 0, _, _ => []
  | fuel + 1, place, p =>
    (t.names place).flatMap fun name =>
      let inner := p.join ⟨name⟩
      match t.entry? (place ++ [name]) with
      | some .directory =>
        if name ∈ skippedNames then [] else filesBelow t fuel (place ++ [name]) inner
      | some (.file _ _) => if hasKnownExtension inner then [inner] else []
      | _ => []

def depthBound (t : FileTree) : Nat :=
  t.entries.foldl (fun n (place, _) => max n place.length) 0 + 1

def expand (w : World) (p : Path) : Except Error (List Path) :=
  match w.tree.find w.directory p with
  | .ok (_, .file _ _) => .ok [p]
  | .ok (place, .directory) => .ok (filesBelow w.tree (depthBound w.tree) place p)
  | _ => .error (.noInput p)

def distinct (ps : List Path) : List Path :=
  ps.foldl (fun seen p => if seen.any (·.same p) then seen else seen ++ [p]) []

def expandAll (w : World) (root : Path) : List Path → Except Error (List Path)
  | [] => .ok []
  | p :: rest =>
    match expand w (root.resolve p) with
    | .error e => .error e
    | .ok files =>
      match expandAll w root rest with
      | .error e => .error e
      | .ok more => .ok (files ++ more)

def collect (root : Path) (inputs : List Path) : Act World (List Path) := do
  let files := distinct (← Act.ofExcept (expandAll (← get) root inputs))
  World.note .debug .driver ("Collected " ++ toString files.length ++ " input files")
  return files

end DeclBundle.Inputs
