import DeclBundle.Component.Declaration
import DeclBundle.Error
import DeclBundle.Path.Location

namespace DeclBundle

structure Output where
  file : Option Path := none
  directory : Option Path := none
deriving DecidableEq, Repr

namespace Output

/-- The directory of the output; the file has the first say. -/
def declarationDirectory (o : Output) (root : Path) : Except Error Path :=
  match o.file, o.directory with
  | some file, _ => .ok (root.resolve (file.parent?.getD ""))
  | none, some directory => .ok (root.resolve directory)
  | none, none => .error .noOutputTarget

end Output

structure Rerooting where
  root : Path
  cleanNames : Bool
deriving DecidableEq, Repr

namespace Rerooting

def target (r : Rerooting) (directory emitted : Path) : Path :=
  let emitted := if r.cleanNames then Component.cleanFileName emitted else emitted
  directory.resolve (r.root.relativeTo emitted)

def text (r : Rerooting) (text : String) : String :=
  if r.cleanNames then Component.cleanImports text else text

end Rerooting

end DeclBundle
