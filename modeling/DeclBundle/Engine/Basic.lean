import DeclBundle.Diagnostic.Basic
import DeclBundle.Module.Basic
import DeclBundle.Options.Basic
import DeclBundle.World

namespace DeclBundle

structure EmittedFile where
  path : Path
  text : String
deriving DecidableEq, Repr

structure Engine (ε : Type) where
  create : ProjectOptions → Act World ε
  addText : Path → String → Act (ε × World) SourceId
  addFile : Path → Act (ε × World) SourceId
  diagnostics : Act (ε × World) (List Diagnostic)
  emit : Act (ε × World) Unit
  emitted : ε → SourceId → Except Error (List EmittedFile)

end DeclBundle
