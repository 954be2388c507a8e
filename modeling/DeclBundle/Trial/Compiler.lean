import DeclBundle.Path.Location
import DeclBundle.World

namespace DeclBundle

inductive Content where
  | text (s : String)
  | bytes (b : ByteArray)

structure CompilerTurn where
  writes : List (String × Content) := []
  stdout : Content := .text ""
  stderr : Content := .text ""
  status : Nat := 0

namespace CompilerTurn

def fill (mark value : List Char) : List Char → List Char
  | [] => []
  | c :: s =>
    match Text.dropHead? mark (c :: s) with
    | some rest =>
      if rest.length ≤ s.length then value ++ fill mark value rest else c :: fill mark value s
    | none => c :: fill mark value s
termination_by s => s.length
decreasing_by all_goals (simp only [List.length_cons]; omega)

def stage (i : Invocation) : Path :=
  match i.arguments with
  | _ :: config :: _ => i.directory.path.resolve ((Path.parent? ⟨config⟩).getD "")
  | _ => i.directory.path

def fillMarks (i : Invocation) (s : String) : String :=
  let here := i.directory.path.relativeTo (stage i)
  String.ofList (fill "$STAGE".toList (stage i).text.toList
    (fill "$STAGEREL".toList here.text.toList s.toList))

def contentBytes (i : Invocation) : Content → ByteArray
  | .text s => (fillMarks i s).toUTF8
  | .bytes b => b

def writeFile (i : Invocation) (t : FileTree) (path : String) (content : Content) : FileTree :=
  let p := i.directory.path.resolve ⟨fillMarks i path⟩
  let t := (t.makePath i.directory (p.parent?.getD p)).2
  match t.write i.directory p (contentBytes i content) with
  | .ok t => t
  | .error _ => t

def play (turn : CompilerTurn) (i : Invocation) (t : FileTree) : Outcome where
  tree := turn.writes.foldl (fun t (path, content) => writeFile i t path content) t
  stdout := contentBytes i turn.stdout
  stderr := contentBytes i turn.stderr
  status := turn.status

/-- The compiler that plays some turns, one for each run; the last one again when there are no more. -/
def compiler (turns : List CompilerTurn) (n : Nat) (i : Invocation) (t : FileTree) : Outcome :=
  ((turns[n]?.or turns.getLast?).getD {}).play i t

end CompilerTurn

end DeclBundle
