import DeclBundle.Module.Basic

namespace DeclBundle

structure Handle where
  id : SourceId
  logicalPath : Path
  kind : ModuleKind
deriving DecidableEq, Repr

structure Registry where
  handles : List Handle

namespace Registry

def empty : Registry := ⟨[]⟩

def push (r : Registry) (h : Handle) : Registry := ⟨r.handles ++ [h]⟩

def size (r : Registry) : Nat := r.handles.length

def isEmpty (r : Registry) : Bool := r.handles.isEmpty

def count (r : Registry) (kind : ModuleKind) : Nat := r.handles.countP (·.kind = kind)

def position? (r : Registry) (p : Path) : Option Nat :=
  r.handles.findIdx? fun h => h.logicalPath.same p

end Registry

end DeclBundle
